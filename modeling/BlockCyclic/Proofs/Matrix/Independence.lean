import BlockCyclic.Proofs.Kernel.Exact
import BlockCyclic.Proofs.Matrix.Creation
import BlockCyclic.Proofs.Matrix.Programs

/-!
# Independence of the layout

A program that mentions no layout shows the same on every one. The effects of its steps
on the whole matrix depend on the shape and the precision alone, and the replies of all
processes mirror these effects on any grid and with any sizes of blocks.
-/

namespace BlockCyclic

variable {n m : Nat} {delta alpha rho beta : Type}

/-!
# Effects on alike layouts
-/

/-- Layouts of the same matrix, on any grids and with any sizes of blocks. -/
structure Layout.Alike (l : Layout n) (k : Layout m) : Prop where
  rows : l.rows = k.rows
  cols : l.cols = k.cols
  precision : l.precision = k.precision

namespace Layout.Alike

variable {l : Layout n} {k : Layout m}

theorem demandProperty (h : l.Alike k) (choice : PropertyChoice) :
    l.demandProperty choice = k.demandProperty choice := by
  cases choice with
  | unspecified => rfl
  | unknown => rfl
  | given property =>
      unfold Layout.demandProperty Layout.checkProperty
      rw [h.rows, h.cols]

theorem propertyFrom (h : l.Alike k) (choice : PropertyChoice) :
    l.propertyFrom choice = k.propertyFrom choice := by
  cases choice with
  | unspecified => rfl
  | unknown => rfl
  | given property =>
      exact congrArg (Except.map some) (h.demandProperty (.given property))

theorem loadEffect (h : l.Alike k) (w : Part alpha) (content : Option (Dense alpha))
    (choice : PropertyChoice) :
    w.loadEffect l content choice = w.loadEffect k content choice := by
  unfold Part.loadEffect
  rw [h.propertyFrom choice, h.rows, h.cols]

variable [Zero alpha] [Zero rho] [Measure rho] (numerics : Numerics delta alpha rho)

theorem effect (h : l.Alike k) (w : Part alpha) (step : Step delta alpha rho) :
    w.effect numerics l step = w.effect numerics k step := by
  cases step with
  | setProperty choice =>
      unfold Part.effect Part.setPropertyEffect
      simp only
      rw [h.demandProperty choice]
  | assign x choice =>
      have hcontent : l.content? numerics x = k.content? numerics x := by
        unfold Layout.content?
        rw [h.rows, h.cols, h.precision]
      unfold Part.effect
      simp only
      rw [hcontent, h.loadEffect]
  | fill t f choice =>
      have hcontent : l.tabulated numerics f = k.tabulated numerics f := by
        unfold Layout.tabulated
        rw [h.rows, h.cols, h.precision]
      unfold Part.effect
      simp only
      rw [hcontent, h.loadEffect]
  | setEntry i j value =>
      unfold Part.effect Part.entryEffect
      simp only
      rw [h.rows, h.cols]
  | copyTo everywhere => rfl
  | cholesky =>
      unfold Part.effect
      rw [h.precision]
  | invert =>
      unfold Part.effect
      rw [h.precision]
  | eigen vectors =>
      unfold Part.effect
      rw [h.precision]
  | condition norm =>
      unfold Part.effect
      rw [h.precision]

theorem history (h : l.Alike k) (w : Part alpha) (program : List (Step delta alpha rho)) :
    w.history numerics l program = w.history numerics k program := by
  induction program generalizing w with
  | nil => rfl
  | cons step rest ih =>
      unfold Part.history
      rw [h.effect numerics w step, ih]

end Layout.Alike

/-!
# Runs that cannot be told apart
-/

/--
Replies to one step on two layouts: on all processes the state, the property and the
failure are the same, and the first processes have the same result.
-/
structure Replies.Match (replies : Replies n alpha beta) (others : Replies m alpha beta) :
    Prop where
  state : forall r s, (replies.get r).part.state = (others.get s).part.state
  property : forall r s, (replies.get r).part.property = (others.get s).part.property
  failure : forall r s,
    failure? (replies.get r).result = failure? (others.get s).result
  first : forall r s, r.val = 0 -> s.val = 0 ->
    (replies.get r).result = (others.get s).result

theorem Replies.match_of_mirrors [Zero alpha] {l : Layout n} {k : Layout m}
    {replies : Replies n alpha beta} {others : Replies m alpha beta}
    {e : Effect alpha beta} (hl : forall r, (replies.get r).Mirrors l r e)
    (hk : forall s, (others.get s).Mirrors k s e) :
    replies.Match others where
  state := by
    intro r s
    rw [(hl r).part, (hk s).part]
    rfl
  property := by
    intro r s
    rw [(hl r).part, (hk s).part]
    rfl
  failure := by
    intro r s
    rw [(hl r).failure, (hk s).failure]
  first := by
    intro r s hr hs
    rw [(hl r).first (l.grid.eq_first.mpr hr), (hk s).first (k.grid.eq_first.mpr hs)]

theorem Replies.forall₂_match_of_mirrors [Zero alpha] {l : Layout n} {k : Layout m}
    {xs : List (Replies n alpha beta)} {ys : List (Replies m alpha beta)}
    {es : List (Effect alpha beta)}
    (hxs : List.Forall₂ (fun x e => forall r, (x.get r).Mirrors l r e) xs es)
    (hys : List.Forall₂ (fun y e => forall s, (y.get s).Mirrors k s e) ys es) :
    List.Forall₂ Replies.Match xs ys := by
  induction hxs generalizing ys with
  | nil =>
      cases hys
      exact .nil
  | cons hx _ ih =>
      cases hys with
      | cons hy hrest => exact .cons (match_of_mirrors hx hy) (ih hrest)

structure Run (n : Nat) (alpha rho : Type) where
  made : DistributedMatrix n alpha
  replies : List (Replies n alpha (Answer alpha rho))

/--
Two runs that show the same: both fail to make the matrix, in the same way, or all
processes of both begin in one state with one property, and the replies match.
-/
inductive Run.Same : Except Failure (Run n alpha rho) -> Except Failure (Run m alpha rho) ->
    Prop where
  | refused (failure : Failure) : Same (.error failure) (.error failure)
  | made {x : Run n alpha rho} {y : Run m alpha rho}
      (state : forall r s, (x.made.part r).state = (y.made.part s).state)
      (property : forall r s, (x.made.part r).property = (y.made.part s).property)
      (replies : List.Forall₂ Replies.Match x.replies y.replies) :
      Same (.ok x) (.ok y)

/-!
# Configurations
-/

/-- Where a program runs: a grid that is in use, and sizes of blocks that pass the checks. -/
structure Configuration (settings : Settings) (n : Nat) where
  grid : Grid n
  unreleased : grid.released = false
  blocks : Argument
  sizes : Nat × Nat
  accepted : MatrixRequest.checkBlocks settings blocks = .ok sizes

namespace Configuration

variable {settings : Settings}

/-- The matrix that a request makes, with the blocks of the configuration. -/
def create [Zero alpha] (c : Configuration settings n) (q : MatrixRequest)
    (shape : Argument) : Except Failure (Created n alpha) :=
  { q with blockSizes := c.blocks }.create settings c.grid shape

def run [Zero alpha] [Zero rho] [Measure rho] (c : Configuration settings n)
    (numerics : Numerics delta alpha rho) (q : MatrixRequest) (shape : Argument)
    (others : Nat -> Fin n -> Option (Sheet delta))
    (program : List (Step delta alpha rho)) : Except Failure (Run n alpha rho) :=
  (c.create q shape).map fun made =>
    ⟨made.matrix, made.matrix.history numerics others 0 program⟩

def layout (c : Configuration settings n) {extents : Nat × Nat}
    (h : 0 < extents.1 ∧ 0 < extents.2) (precision : Precision) : Layout n where
  grid := c.grid
  rows := extents.1
  cols := extents.2
  rowBlock := c.sizes.1
  colBlock := c.sizes.2
  precision := precision
  rows_pos := h.1
  cols_pos := h.2
  rowBlock_pos := (MatrixRequest.pos_of_checkBlocks c.accepted).1
  colBlock_pos := (MatrixRequest.pos_of_checkBlocks c.accepted).2

theorem layout_alike (c : Configuration settings n) (d : Configuration settings m)
    {extents : Nat × Nat} (h : 0 < extents.1 ∧ 0 < extents.2) (precision : Precision) :
    (c.layout h precision).Alike (d.layout h precision) :=
  ⟨rfl, rfl, rfl⟩

/-- The checks of a request fail in the same way, or make blank matrices on alike layouts. -/
theorem create_alike (alpha : Type) [Zero alpha] (c : Configuration settings n)
    (d : Configuration settings m)
    (q : MatrixRequest) (shape : Argument) :
    (exists failure, (c.create q shape : Except Failure (Created n alpha)) = .error failure ∧
      (d.create q shape : Except Failure (Created m alpha)) = .error failure) ∨
    (exists (x : Created n alpha) (y : Created m alpha) (l : Layout n) (k : Layout m)
      (property : Property),
      c.create q shape = .ok x ∧ d.create q shape = .ok y ∧
      x.matrix = .blank l property ∧ y.matrix = .blank k property ∧ l.Alike k ∧
      l.grid = c.grid ∧ k.grid = d.grid ∧
      (property = .symmetric -> l.rows = l.cols)) := by
  unfold create MatrixRequest.create MatrixRequest.plan MatrixRequest.outline
  simp only
  rw [c.accepted, d.accepted]
  cases hextents : MatrixRequest.checkShape shape with
  | error failure => exact Or.inl ⟨failure, rfl, rfl⟩
  | ok extents =>
      have hpos := MatrixRequest.pos_of_checkShape hextents
      cases MatrixRequest.checkPrecision q.elementType with
      | error failure => exact Or.inl ⟨failure, rfl, rfl⟩
      | ok precision =>
          have hc : MatrixRequest.layout c.grid extents c.sizes precision =
              .ok (c.layout hpos precision) :=
            MatrixRequest.layout_of_pos hpos (MatrixRequest.pos_of_checkBlocks c.accepted) _
          have hd : MatrixRequest.layout d.grid extents d.sizes precision =
              .ok (d.layout hpos precision) :=
            MatrixRequest.layout_of_pos hpos (MatrixRequest.pos_of_checkBlocks d.accepted) _
          have halike := c.layout_alike d hpos precision
          simp only [bind, Except.bind]
          rw [hc, hd]
          simp only
          rw [← halike.demandProperty]
          cases hproperty : (c.layout hpos precision).demandProperty
              (MatrixRequest.initialProperty shape q.property) with
          | error failure => exact Or.inl ⟨failure, rfl, rfl⟩
          | ok property =>
              unfold MatrixRequest.chosenBackend
              simp only [pure, Except.pure]
              cases Backend.named
                  (MatrixRequest.orElse q.backend (.text settings.backend)) with
              | error failure => exact Or.inl ⟨failure, rfl, rfl⟩
              | ok backend =>
                  exact Or.inr ⟨_, _, c.layout hpos precision, d.layout hpos precision,
                    property, rfl, rfl, rfl, rfl, halike, rfl, rfl,
                    (Layout.given_of_demandProperty hproperty).2⟩

variable [Zero alpha] [Zero rho] [Measure rho]

/--
A program that mentions no layout shows the same in any two configurations: they fail to
make the matrix alike, or after every step all processes of both are in one state, see one
property and have one failure or none, and the first processes have one result.
-/
theorem run_independent (c : Configuration settings n) (d : Configuration settings m)
    (numerics : Numerics delta alpha rho) (hshape : numerics.serial.KeepsShape)
    (q : MatrixRequest) (shape : Argument)
    (others : Nat -> Fin n -> Option (Sheet delta))
    (others' : Nat -> Fin m -> Option (Sheet delta))
    (program : List (Step delta alpha rho)) :
    Run.Same (c.run numerics q shape others program)
      (d.run numerics q shape others' program) := by
  unfold run
  rcases create_alike alpha c d q shape with ⟨failure, hc, hd⟩ | hmade
  · rw [hc, hd]
    exact .refused failure
  · rcases hmade with ⟨x, y, l, k, property, hc, hd, hx, hy, halike, hl, hk, hsymmetric⟩
    rw [hc, hd]
    simp only [Except.map]
    rw [hx, hy]
    have hopenL : l.grid.released = false := by rw [hl, c.unreleased]
    have hopenK : k.grid.released = false := by rw [hk, d.unreleased]
    have hrows := halike.rows
    have hcols := halike.cols
    have hholdsL := @DistributedMatrix.holds_blank n alpha _ l property hsymmetric
    have hholdsK := @DistributedMatrix.holds_blank m alpha _ k property
      (fun h => hrows.symm.trans ((hsymmetric h).trans hcols))
    rw [← hrows, ← hcols] at hholdsK
    have hruns := DistributedMatrix.history_mirrors hshape others hopenL hholdsL 0 program
    have hruns' := DistributedMatrix.history_mirrors hshape others' hopenK hholdsK 0 program
    -- Both runs mirror the effects on one whole matrix, which alike layouts have in common.
    change List.Forall₂ _ _ (Part.history numerics k _ program) at hruns'
    rw [← halike.history numerics] at hruns'
    refine .made ?_ ?_ ?_
    · intro r s
      rw [hholdsL.parts r, hholdsK.parts s]
      rfl
    · intro r s
      rw [hholdsL.parts r, hholdsK.parts s]
      rfl
    · exact Replies.forall₂_match_of_mirrors hruns hruns'

/-- One process with one block, and three processes of which two hold a row each. -/
theorem run_independent_two_rows :
    let alone : Configuration .standard 1 :=
      ⟨⟨1, 1, by decide, by decide, by decide, fun _ => 0, false⟩, rfl, .absent, (32, 32), rfl⟩
    let spread : Configuration .standard 3 :=
      ⟨⟨2, 1, by decide, by decide, by decide, fun _ => 0, false⟩, rfl,
        .list [.whole 1, .whole 2], (1, 2), rfl⟩
    let q : MatrixRequest := ⟨.absent, .absent, .given .symmetric, .absent⟩
    let x : Sheet Int := ⟨[2, 2], .ofPrecision .double, #[1, 1, 1, 1]⟩
    let program : List (Step Int Int Int) :=
      [.assign (some x) .unspecified, .setEntry 1 1 2, .setEntry 2 0 5, .cholesky,
        .copyTo false, .setEntry 0 1 7, .invert, .copyTo true, .cholesky]
    (exists run, alone.run exactNumerics q (.whole 2) (fun _ _ => none) program = .ok run) ∧
      Run.Same (alone.run exactNumerics q (.whole 2) (fun _ _ => none) program)
        (spread.run exactNumerics q (.whole 2) (fun _ _ => some x) program) := by
  intro alone spread q x program
  exact ⟨⟨_, rfl⟩, run_independent alone spread exactNumerics exactKernels_keepsShape q
    (.whole 2) _ _ program⟩

end Configuration
end BlockCyclic
