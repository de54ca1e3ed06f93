import BlockCyclic.Proofs.Matrix.Creation
import BlockCyclic.Proofs.Matrix.Whole

/-!
# Loading and copying whole matrices

A sheet on the first process, or a function of the indices, becomes the whole matrix, and
the first process copies the whole matrix. What the other processes bring does not matter.
-/

namespace BlockCyclic

variable {n : Nat} {delta alpha rho : Type}

/-!
# Effects
-/

namespace Part

/-- Another property, for the present content and for content loaded anew. -/
def setPropertyEffect (l : Layout n) (w : Part alpha) (choice : PropertyChoice) :
    Effect alpha Unit :=
  match l.demandProperty choice with
  | .ok property => ⟨{ w with property := property, freshProperty := property }, .ok ()⟩
  | .error failure => .refuse w failure

/-- Content that is loaded anew; there may be none. -/
def loadEffect (l : Layout n) (w : Part alpha) (content : Option (Dense alpha))
    (choice : PropertyChoice) : Effect alpha Unit :=
  match l.propertyFrom choice with
  | .error failure => .refuse w failure
  | .ok property =>
      match content with
      | some x => ⟨w.load x property, .ok ()⟩
      | none => .refuse w (.value (.wrongMatrix l.rows l.cols))

def copyEffect (w : Part alpha) : Effect alpha (Option (Dense alpha)) :=
  .guarded w (w.requireState .copy) ⟨w, .ok (some w.block)⟩

theorem fits_setPropertyEffect {l : Layout n} {w : Part alpha} (h : w.Fits l.rows l.cols)
    (choice : PropertyChoice) :
    (w.setPropertyEffect l choice).part.Fits l.rows l.cols := by
  unfold setPropertyEffect
  cases hdemand : l.demandProperty choice with
  | error failure => exact h
  | ok property =>
      exact
        { rows := h.rows
          cols := h.cols
          symmetric := (Layout.given_of_demandProperty hdemand).2
          freshSymmetric := (Layout.given_of_demandProperty hdemand).2
          cholesky := h.cholesky }

theorem fits_loadEffect {l : Layout n} {w : Part alpha} (h : w.Fits l.rows l.cols)
    {content : Option (Dense alpha)}
    (hcontent : forall x, content = some x -> x.rows = l.rows ∧ x.cols = l.cols)
    (choice : PropertyChoice) :
    (w.loadEffect l content choice).part.Fits l.rows l.cols := by
  unfold loadEffect
  cases hproperty : l.propertyFrom choice with
  | error failure => exact h
  | ok property =>
      cases hx : content with
      | none => exact h
      | some x =>
          have hfresh : l.Allows (property.getD w.freshProperty) := by
            rcases Layout.given_of_propertyFrom hproperty with
              ⟨_, rfl⟩ | ⟨given, _, rfl, hallowed⟩
            · exact h.freshSymmetric
            · exact hallowed
          exact
            { rows := (hcontent x hx).1
              cols := (hcontent x hx).2
              symmetric := hfresh
              freshSymmetric := hfresh
              cholesky := fun hstate => by cases hstate }

theorem part_copyEffect (w : Part alpha) : w.copyEffect.part = w := by
  unfold copyEffect Effect.guarded
  cases w.requireState .copy with
  | ok _ => rfl
  | error failure => rfl

end Part

def Layout.content? [Zero alpha] (numerics : Numerics delta alpha rho) (l : Layout n)
    (x : Option (Sheet delta)) : Option (Dense alpha) :=
  match x with
  | some s =>
      if s.isReal l.rows l.cols then
        some (s.toDense (numerics.enter l.precision) l.rows l.cols)
      else none
  | none => none

def Region.tabulate (t : ElementType) (f : Nat -> Nat -> delta) (region : Region) :
    Sheet delta where
  dims := [region.rows.size, region.cols.size]
  elementType := t
  entries := Array.ofFn fun k : Fin (region.rows.size * region.cols.size) =>
    f (region.rows.getD (k.val / region.cols.size) 0)
      (region.cols.getD (k.val % region.cols.size) 0)

def Layout.tabulated (numerics : Numerics delta alpha rho) (l : Layout n)
    (f : Nat -> Nat -> delta) : Dense alpha :=
  Dense.ofFn l.rows l.cols fun i j => numerics.enter l.precision (f i j)

theorem Region.entryAt_tabulate [Zero alpha] (enter : delta -> alpha) (t : ElementType)
    (f : Nat -> Nat -> delta) (region : Region) {i j : Nat} (hi : i < region.rows.size)
    (hj : j < region.cols.size) :
    (region.tabulate t f).entryAt enter (i * region.cols.size + j) =
      enter (f (region.rows.getD i 0) (region.cols.getD j 0)) := by
  have hpos : 0 < region.cols.size := Nat.lt_of_le_of_lt (Nat.zero_le j) hj
  have hplace : i * region.cols.size + j < region.rows.size * region.cols.size := by
    have hsmall := Dense.place_lt hj hi
    rwa [Nat.add_comm, Nat.mul_comm region.cols.size] at hsmall
  have hdiv : (i * region.cols.size + j) / region.cols.size = i := by
    rw [Nat.add_comm, Nat.add_mul_div_right _ _ hpos, Nat.div_eq_of_lt hj, Nat.zero_add]
  have hmod : (i * region.cols.size + j) % region.cols.size = j := by
    rw [Nat.add_comm, Nat.add_mul_mod_self_right, Nat.mod_eq_of_lt hj]
  unfold Sheet.entryAt tabulate
  simp only [Array.getElem?_ofFn, dif_pos hplace, hdiv, hmod]

theorem Sheet.stretched_of_lt {extent i : Nat} (hi : i < extent) :
    stretched extent i = i := by
  unfold stretched
  by_cases hone : extent = 1
  · rw [if_pos hone]
    omega
  · rw [if_neg hone]

/-- A sheet that has a shape already becomes the same matrix when it is stretched to it. -/
theorem Sheet.stretch?_of_dims [Zero alpha] (enter : delta -> alpha) {s : Sheet delta}
    {m k : Nat} (hdims : s.dims = [m, k]) :
    s.stretch? enter m k = some (s.toDense enter m k) := by
  have hstretches : (stretches m m && stretches k k) = true := by
    unfold stretches
    rw [beq_self_eq_true, beq_self_eq_true, Bool.true_or, Bool.true_or]
    rfl
  unfold stretch?
  rw [hdims]
  simp only
  rw [if_pos hstretches, Option.some.injEq]
  refine Dense.ext_get ?_ ?_ ?_
  · rfl
  · rfl
  intro i j hi hj
  change i < m at hi
  change j < k at hj
  unfold toDense
  rw [Dense.get_ofFn, Dense.get_ofFn, stretched_of_lt hi, stretched_of_lt hj]

/-!
# What the processes do
-/

namespace DistributedMatrix

variable [Zero alpha] {a : DistributedMatrix n alpha} {w : Part alpha}
  {numerics : Numerics delta alpha rho}

theorem shows_setProperty (h : a.Holds w) (choice : PropertyChoice) (r : Fin n) :
    ((a.setProperty choice).get r).Shows a.layout r
      (w.setPropertyEffect a.layout choice) := by
  unfold setProperty
  rw [PerProcess.get_ofFn]
  unfold setPropertyOn Part.setPropertyEffect
  rw [h.parts r]
  cases a.layout.demandProperty choice with
  | ok property => exact ⟨rfl, rfl⟩
  | error failure => exact ⟨rfl, rfl⟩

theorem shows_loaded (h : a.Holds w) {r : Fin n} {block x : Dense alpha}
    (hblock : block = a.layout.piece x r) (property : Option Property)
    (log : List Event) :
    (a.loaded r block property log).Shows a.layout r ⟨w.load x property, .ok ()⟩ := by
  unfold loaded Reply.Shows Part.load Part.piece
  rw [h.parts r, hblock]
  exact ⟨rfl, rfl⟩

theorem shows_assign (hopen : a.layout.grid.released = false) (h : a.Holds w)
    (x : PerProcess n (Option (Sheet delta))) (choice : PropertyChoice) (r : Fin n) :
    ((a.assign numerics x choice).get r).Shows a.layout r
      (w.loadEffect a.layout
        (a.layout.content? numerics (x.get a.layout.grid.first)) choice) := by
  have hverdict : (a.verdicts x).get r = a.provides (x.get a.layout.grid.first) := by
    unfold verdicts
    rw [Grid.get_world_broadcast a.layout.grid, PerProcess.get_map]
  unfold assign Part.loadEffect
  simp only [PerProcess.get_ofFn, hverdict]
  cases a.layout.propertyFrom choice with
  | error failure => exact ⟨h.parts r, rfl⟩
  | ok property =>
      cases hx : x.get a.layout.grid.first with
      | none => exact ⟨h.parts r, rfl⟩
      | some s =>
          unfold provides Layout.content?
          simp only
          by_cases hreal : s.isReal a.layout.rows a.layout.cols = true
          · rw [if_pos hreal, if_pos hreal]
            apply shows_loaded h
            apply Layout.get_scatter_pieces hopen (get_blocks h)
            · rw [PerProcess.get_map, hx]
              rfl
            · rfl
            · rfl
          · rw [if_neg hreal, if_neg hreal]
            exact ⟨h.parts r, rfl⟩

theorem evaluated_tabulate (h : a.Holds w) (t : ElementType) (f : Nat -> Nat -> delta)
    (r : Fin n) :
    a.evaluated numerics (fun region => .ok (region.tabulate t f)) r =
      .ok (a.layout.piece (a.layout.tabulated numerics f) r) := by
  unfold evaluated
  simp only
  cases hr : a.layout.grid.active r with
  | false =>
      have hblock : (a.part r).block =
          a.layout.piece (a.layout.tabulated numerics f) r := by
        rw [h.parts r]
        exact a.layout.eq_piece_of_inactive _ hr (a.layout.rows_piece _ r)
          (a.layout.cols_piece _ r)
      rw [hblock]
      rfl
  | true =>
      have hdims : ((a.layout.indices r).tabulate t f).dims =
          [(a.layout.localShape r).1, (a.layout.localShape r).2] := by
        unfold Region.tabulate
        rw [Layout.size_rows_indices, Layout.size_cols_indices]
      have hpiece : ((a.layout.indices r).tabulate t f).toDense
          (numerics.enter a.layout.precision) (a.layout.localShape r).1
            (a.layout.localShape r).2 =
          a.layout.piece (a.layout.tabulated numerics f) r := by
        apply a.layout.eq_piece rfl rfl
        intro i j hi hj
        have hentry := Region.entryAt_tabulate (numerics.enter a.layout.precision) t f
          (a.layout.indices r) (by rwa [Layout.size_rows_indices])
          (by rwa [Layout.size_cols_indices])
        rw [Layout.size_cols_indices, a.layout.getD_rows_indices r hi,
          a.layout.getD_cols_indices r hj] at hentry
        unfold Sheet.toDense Layout.tabulated
        rw [Dense.get_ofFn, if_pos ⟨hi, hj⟩, hentry, Dense.get_ofFn,
          if_pos ⟨a.layout.rowIndex_lt r hi, a.layout.colIndex_lt r hj⟩]
      have hstretch := Sheet.stretch?_of_dims (numerics.enter a.layout.precision) hdims
      rw [hpiece] at hstretch
      simp only [if_true, bind, Except.bind, hstretch]

theorem shows_fill (h : a.Holds w) (t : ElementType) (f : Nat -> Nat -> delta)
    (choice : PropertyChoice) (r : Fin n) :
    ((a.fill numerics (fun region => .ok (region.tabulate t f)) choice).get r).Shows
      a.layout r
      (w.loadEffect a.layout (some (a.layout.tabulated numerics f)) choice) := by
  unfold fill
  rw [PerProcess.get_ofFn]
  unfold fillOn Part.loadEffect
  rw [evaluated_tabulate h]
  cases a.layout.propertyFrom choice with
  | error failure => exact ⟨h.parts r, rfl⟩
  | ok property => exact shows_loaded h rfl property []

/-- The first process copies the whole matrix; all processes refuse alike. -/
theorem reply_copyTo (hopen : a.layout.grid.released = false) (h : a.Holds w)
    (everywhere : Bool) (r : Fin n) :
    exists copy, (everywhere = true ∨ r = a.layout.grid.first -> copy = some w.block) ∧
      (a.copyTo everywhere).get r =
        Reply.guarded (w.piece a.layout r) (w.requireState .copy)
          (.answer (w.piece a.layout r) copy) := by
  refine ⟨(if everywhere then Communicator.world.broadcast 0 a.gathered
    else a.gathered).get r, ?_, ?_⟩
  · intro hreceives
    cases heverywhere : everywhere with
    | true =>
        rw [if_pos rfl, Grid.get_world_broadcast a.layout.grid,
          get_gathered hopen h, if_pos rfl]
    | false =>
        rw [heverywhere] at hreceives
        rcases hreceives with hfalse | hfirst
        · cases hfalse
        · rw [if_neg Bool.false_ne_true, get_gathered hopen h, if_pos hfirst]
  · unfold copyTo
    simp only [PerProcess.get_ofFn]
    rw [h.parts r]
    rfl

end DistributedMatrix
end BlockCyclic
