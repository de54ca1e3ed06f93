import BlockCyclic.Matrix.Call
import BlockCyclic.Proofs.Matrix.Entries
import BlockCyclic.Proofs.Matrix.Loading
import BlockCyclic.Proofs.Matrix.Solving

/-!
# Programs that mention no layout

A step of a program says what happens to the whole matrix; on a layout it becomes a call.
Every step has an effect on the whole matrix that a distributed matrix holds, and the
replies of all processes mirror it. By induction on a program they mirror all its effects.
-/

namespace BlockCyclic

variable {n : Nat} {delta alpha rho beta : Type}

/-!
# Steps
-/

inductive Step (delta alpha rho : Type) where
  | setProperty (choice : PropertyChoice)
  /-- The first process has the content. -/
  | assign (x : Option (Sheet delta)) (choice : PropertyChoice)
  | fill (elementType : ElementType) (f : Nat -> Nat -> delta) (choice : PropertyChoice)
  /-- The owner of an entry writes it, at the address of the entry. -/
  | setEntry (i j : Int) (value : alpha)
  | copyTo (everywhere : Bool)
  | cholesky
  | invert
  | eigen (vectors : Bool)
  | condition (norm : rho)

/-- The call that a step is on a layout, where the other processes bring sheets of their own. -/
def Step.call (l : Layout n) (others : Fin n -> Option (Sheet delta)) :
    Step delta alpha rho -> Except Failure (Call n delta alpha rho)
  | .setProperty choice => .ok (.setProperty choice)
  | .assign x choice =>
      .ok (.assign (Vector.ofFn fun r => if r.val = 0 then x else others r) choice)
  | .fill t f choice => .ok (.fill (fun region => .ok (region.tabulate t f)) choice)
  | .setEntry i j value => do
      let place <- l.address (.whole i) (.whole j)
      return .setElement (l.owns place) (.whole place.localRow) (.whole place.localCol) value
  | .copyTo everywhere => .ok (.copyTo everywhere)
  | .cholesky => .ok .cholesky
  | .invert => .ok .invert
  | .eigen vectors => .ok (.eigen vectors)
  | .condition norm => .ok (.condition (Vector.replicate n norm))

section

variable {l : Layout n} (others : Fin n -> Option (Sheet delta)) {i j : Int} {value : alpha}

theorem Step.call_setEntry_of_inside (hi : 0 ≤ i ∧ i < l.rows) (hj : 0 ≤ j ∧ j < l.cols) :
    (setEntry i j value : Step delta alpha rho).call l others =
      .ok (.setElement
        (fun r => l.grid.coords r ==
          (l.distribution.rowAxis.owner i, l.distribution.colAxis.owner j))
        (.whole (l.distribution.rowAxis.slot i))
        (.whole (l.distribution.colAxis.slot j)) value) := by
  unfold call
  simp only
  rw [Layout.address_of_inside hi hj]
  rfl

theorem Step.call_setEntry_of_outside
    (h : ¬((0 ≤ i ∧ i < l.rows) ∧ (0 ≤ j ∧ j < l.cols))) :
    (setEntry i j value : Step delta alpha rho).call l others =
      .error (.index (.globalElement (.whole i) (.whole j) l.rows l.cols)) := by
  unfold call
  simp only
  rw [Layout.address_of_outside h]
  rfl

end

section

variable [Zero alpha] [Zero rho] [Measure rho] (numerics : Numerics delta alpha rho)

def DistributedMatrix.take (others : Fin n -> Option (Sheet delta))
    (a : DistributedMatrix n alpha) (step : Step delta alpha rho) :
    Replies n alpha (Answer alpha rho) :=
  match step.call a.layout others with
  | .ok call => a.perform numerics call
  | .error failure => Vector.ofFn fun r => .refuse (a.part r) failure

/-- The replies to all steps of a program; the other processes bring sheets to each step. -/
def DistributedMatrix.history (others : Nat -> Fin n -> Option (Sheet delta)) (k : Nat)
    (a : DistributedMatrix n alpha) :
    List (Step delta alpha rho) -> List (Replies n alpha (Answer alpha rho))
  | [] => []
  | step :: rest =>
      let replies := a.take numerics (others k) step
      replies :: history others (k + 1) (a.after replies) rest

def Part.effect (l : Layout n) (w : Part alpha) :
    Step delta alpha rho -> Effect alpha (Answer alpha rho)
  | .setProperty choice => (w.setPropertyEffect l choice).map fun _ => .done
  | .assign x choice =>
      (w.loadEffect l (l.content? numerics x) choice).map fun _ => .done
  | .fill _ f choice =>
      (w.loadEffect l (some (l.tabulated numerics f)) choice).map fun _ => .done
  | .setEntry i j value => (w.entryEffect l i j value).map fun _ => .done
  | .copyTo _ => w.copyEffect.map .content
  | .cholesky => (w.choleskyEffect numerics l.precision).map fun _ => .done
  | .invert => (w.invertEffect numerics l.precision).map fun _ => .done
  | .eigen vectors => (w.eigenEffect numerics l.precision vectors).map .eigenvalues
  | .condition norm => (w.conditionEffect numerics l.precision norm).map .measure

def Part.history (l : Layout n) (w : Part alpha) :
    List (Step delta alpha rho) -> List (Effect alpha (Answer alpha rho))
  | [] => []
  | step :: rest => w.effect numerics l step :: history l (w.effect numerics l step).part rest

end

/-!
# Mirrored effects
-/

def failure? (result : Except Failure beta) : Option Failure :=
  match result with
  | .ok _ => none
  | .error failure => some failure

/--
A process keeps its piece of what an effect leaves and fails as it fails; the first process
has its result.
-/
structure Reply.Mirrors [Zero alpha] (l : Layout n) (r : Fin n) (reply : Reply alpha beta)
    (e : Effect alpha beta) : Prop where
  part : reply.part = e.part.piece l r
  failure : failure? reply.result = failure? e.result
  first : r = l.grid.first -> reply.result = e.result

theorem Reply.mirrors_of_shows [Zero alpha] {gamma : Type} {l : Layout n} {r : Fin n}
    {reply : Reply alpha beta} {e : Effect alpha beta} (h : reply.Shows l r e)
    (f : beta -> gamma) : (reply.map f).Mirrors l r (e.map f) := by
  have hresult : (reply.map f).result = (e.map f).result := by
    unfold Reply.map Effect.map
    rw [h.2]
  exact ⟨h.1, congrArg failure? hresult, fun _ => hresult⟩

theorem Reply.mirrors_map [Zero alpha] {gamma : Type} {l : Layout n} {r : Fin n}
    {replies : Replies n alpha beta} {e : Effect alpha beta}
    (h : (replies.get r).Shows l r e) (f : beta -> gamma) :
    ((replies.map (Reply.map f)).get r).Mirrors l r (e.map f) := by
  rw [PerProcess.get_map]
  exact mirrors_of_shows h f

namespace DistributedMatrix

variable [Zero alpha] {a : DistributedMatrix n alpha} {w : Part alpha}

theorem mirrors_copyTo (hopen : a.layout.grid.released = false) (h : a.Holds w)
    (everywhere : Bool) (r : Fin n) :
    (((a.copyTo everywhere).map
      (Reply.map (Answer.content : Option (Dense alpha) -> Answer alpha rho))).get r).Mirrors
        a.layout r (w.copyEffect.map .content) := by
  rw [PerProcess.get_map]
  rcases reply_copyTo hopen h everywhere r with ⟨copy, hcopy, hreply⟩
  rw [hreply]
  unfold Part.copyEffect Reply.guarded Effect.guarded
  cases w.requireState .copy with
  | error failure => exact ⟨rfl, rfl, fun _ => rfl⟩
  | ok _ =>
      refine ⟨rfl, rfl, ?_⟩
      intro hfirst
      rw [hcopy (Or.inr hfirst)]
      rfl

variable [Zero rho] [Measure rho] {numerics : Numerics delta alpha rho}

theorem mirrors_setEntry (h : a.Holds w) (others : Fin n -> Option (Sheet delta))
    (i j : Int) (value : alpha) (r : Fin n) :
    ((a.take numerics others (.setEntry i j value)).get r).Mirrors a.layout r
      ((w.entryEffect a.layout i j value).map fun _ => .done) := by
  unfold take Part.entryEffect
  by_cases hinside : (0 ≤ i ∧ i < a.layout.rows) ∧ (0 ≤ j ∧ j < a.layout.cols)
  · rw [Step.call_setEntry_of_inside others hinside.1 hinside.2, if_pos hinside]
    unfold perform
    simp only
    rw [PerProcess.get_ofFn]
    by_cases howner : a.layout.grid.coords r =
        (a.layout.distribution.rowAxis.owner i, a.layout.distribution.colAxis.owner j)
    · rw [if_pos (beq_iff_eq.mpr howner)]
      apply Reply.mirrors_of_shows
      exact setElement_of_owner h hinside.1 hinside.2 (congrArg Prod.fst howner)
        (congrArg Prod.snd howner) value
    · -- No entry of another process is the written one, so that its piece stays the same.
      rw [if_neg (fun heq => howner (beq_iff_eq.mp heq))]
      have hkept := Layout.piece_set_of_other h.fits.rows h.fits.cols hinside.1.1
        hinside.2.1 (fun hboth => howner (Prod.ext hboth.1 hboth.2)) value
      refine ⟨?_, rfl, fun _ => rfl⟩
      unfold Reply.answer Effect.map Part.piece
      rw [h.parts r]
      unfold Part.piece
      simp only
      rw [hkept]
  · rw [Step.call_setEntry_of_outside others hinside, if_neg hinside]
    simp only
    rw [PerProcess.get_ofFn]
    exact ⟨h.parts r, rfl, fun _ => rfl⟩

theorem mirrors_take (hopen : a.layout.grid.released = false)
    (hshape : numerics.serial.KeepsShape) (h : a.Holds w)
    (others : Fin n -> Option (Sheet delta)) (step : Step delta alpha rho) (r : Fin n) :
    ((a.take numerics others step).get r).Mirrors a.layout r
      (w.effect numerics a.layout step) := by
  cases step with
  | setProperty choice => exact Reply.mirrors_map (shows_setProperty h choice r) _
  | assign x choice =>
      have hshows : forall sheets : PerProcess n (Option (Sheet delta)),
          sheets.get a.layout.grid.first = x ->
          ((a.assign numerics sheets choice).get r).Shows a.layout r
            (w.loadEffect a.layout (a.layout.content? numerics x) choice) := by
        rintro sheets rfl
        exact shows_assign hopen h sheets choice r
      apply Reply.mirrors_map
      apply hshows
      rw [PerProcess.get_ofFn, if_pos ((Grid.eq_first _).mp rfl)]
  | fill t f choice => exact Reply.mirrors_map (shows_fill h t f choice r) _
  | setEntry i j value => exact mirrors_setEntry h others i j value r
  | copyTo everywhere => exact mirrors_copyTo hopen h everywhere r
  | cholesky => exact Reply.mirrors_map (shows_cholesky hopen h hshape r) _
  | invert => exact Reply.mirrors_map (shows_invert hopen h hshape r) _
  | eigen vectors => exact Reply.mirrors_map (shows_eigen hopen h hshape vectors r) _
  | condition norm =>
      exact Reply.mirrors_map
        (shows_condition hopen h (fun s _ => PerProcess.get_replicate norm s) r) _

end DistributedMatrix

theorem Part.fits_effect [Zero alpha] [Zero rho] [Measure rho]
    {numerics : Numerics delta alpha rho} (hshape : numerics.serial.KeepsShape)
    {l : Layout n} {w : Part alpha} (h : w.Fits l.rows l.cols)
    (step : Step delta alpha rho) :
    (w.effect numerics l step).part.Fits l.rows l.cols := by
  cases step with
  | setProperty choice => exact fits_setPropertyEffect h choice
  | assign x choice =>
      apply fits_loadEffect h _ choice
      intro content hcontent
      unfold Layout.content? at hcontent
      cases x with
      | none => cases hcontent
      | some s =>
          simp only at hcontent
          split at hcontent
          · cases hcontent
            exact ⟨rfl, rfl⟩
          · cases hcontent
  | fill t f choice =>
      apply fits_loadEffect h _ choice
      intro content hcontent
      cases hcontent
      exact ⟨rfl, rfl⟩
  | setEntry i j value => exact fits_entryEffect h i j value
  | copyTo everywhere =>
      show w.copyEffect.part.Fits _ _
      rw [part_copyEffect]
      exact h
  | cholesky => exact fits_choleskyEffect hshape h l.precision
  | invert => exact fits_invertEffect hshape h l.precision
  | eigen vectors => exact fits_eigenEffect hshape h l.precision vectors
  | condition norm =>
      show (w.conditionEffect numerics l.precision norm).part.Fits _ _
      rw [part_conditionEffect]
      exact h

/-- The replies to a program mirror its effects on the whole matrix, step by step. -/
theorem DistributedMatrix.history_mirrors [Zero alpha] [Zero rho] [Measure rho]
    {numerics : Numerics delta alpha rho} (hshape : numerics.serial.KeepsShape)
    (others : Nat -> Fin n -> Option (Sheet delta)) {a : DistributedMatrix n alpha}
    (hopen : a.layout.grid.released = false) {w : Part alpha} (h : a.Holds w) (k : Nat)
    (program : List (Step delta alpha rho)) :
    List.Forall₂ (fun replies e => forall r, (replies.get r).Mirrors a.layout r e)
      (a.history numerics others k program) (w.history numerics a.layout program) := by
  -- The matrix changes from step to step; what stays is that it holds a fitting whole.
  induction program generalizing a w k with
  | nil => exact .nil
  | cons step rest ih =>
      have hstep := mirrors_take hopen hshape h (others k) step
      have hafter : (a.after (a.take numerics (others k) step)).Holds
          (w.effect numerics a.layout step).part :=
        holds_after (Part.fits_effect hshape h.fits step) fun r => (hstep r).part
      exact .cons hstep
        (ih (a := a.after (a.take numerics (others k) step)) hopen hafter (k + 1))

end BlockCyclic
