import BlockCyclic.Matrix.Element
import BlockCyclic.Proofs.Matrix.Whole

/-!
# Entries of a whole matrix and their owners

An entry has an address exactly if it lies in the matrix, and then one process of the grid
holds it, in one local place. Writing there changes this entry of the whole matrix, and no
piece of any other process.
-/

namespace BlockCyclic

variable {n : Nat} {alpha : Type}

/-!
# Addresses
-/

namespace Subscript

theorem below?_whole (i m : Int) :
    (whole i).below? m = some (decide (0 ≤ i ∧ i < m)) := by
  unfold below?
  simp only [Bool.decide_and]

theorem bothBelow?_whole (i j m k : Int) :
    (whole i).bothBelow? (whole j) m k =
      some (decide ((0 ≤ i ∧ i < m) ∧ (0 ≤ j ∧ j < k))) := by
  unfold bothBelow?
  rw [below?_whole, below?_whole]
  by_cases hi : 0 ≤ i ∧ i < m
  · rw [decide_eq_true hi]
    simp only [hi, and_self, true_and]
  · have houtside : ¬((0 ≤ i ∧ i < m) ∧ (0 ≤ j ∧ j < k)) := fun h => hi h.1
    rw [decide_eq_false hi, decide_eq_false houtside]

end Subscript

namespace Layout

variable {l : Layout n}

def owns (l : Layout n) (place : Address) (r : Fin n) : Bool :=
  l.grid.coords r == (place.processRow, place.processCol)

theorem address_of_inside {i j : Int} (hi : 0 ≤ i ∧ i < l.rows) (hj : 0 ≤ j ∧ j < l.cols) :
    l.address (.whole i) (.whole j) =
      .ok ⟨l.distribution.rowAxis.owner i, l.distribution.colAxis.owner j,
        l.distribution.rowAxis.slot i, l.distribution.colAxis.slot j⟩ := by
  unfold address
  rw [Subscript.bothBelow?_whole, decide_eq_true ⟨hi, hj⟩]
  rfl

theorem address_of_outside {i j : Int}
    (h : ¬((0 ≤ i ∧ i < l.rows) ∧ (0 ≤ j ∧ j < l.cols))) :
    l.address (.whole i) (.whole j) =
      .error (.index (.globalElement (.whole i) (.whole j) l.rows l.cols)) := by
  unfold address
  rw [Subscript.bothBelow?_whole, decide_eq_false h]
  rfl

/-!
# Local places
-/

variable {r : Fin n} (hr : l.grid.active r = true)

include hr

theorem coords_row_bounds :
    0 ≤ (l.grid.coords r).1 ∧ (l.grid.coords r).1 < l.distribution.rowAxis.procs := by
  unfold Grid.coords
  rw [if_pos hr]
  exact ⟨Int.natCast_nonneg _, Int.ofNat_lt.mpr (Grid.row_lt hr)⟩

theorem coords_col_bounds :
    0 ≤ (l.grid.coords r).2 ∧ (l.grid.coords r).2 < l.distribution.colAxis.procs := by
  unfold Grid.coords
  rw [if_pos hr]
  exact ⟨Int.natCast_nonneg _, Int.ofNat_lt.mpr (Grid.col_lt r)⟩

theorem owner_rowIndex (i : Int) :
    l.distribution.rowAxis.owner (l.rowIndex r i) = (l.grid.coords r).1 :=
  Axis.owner_index l.onGrid.positive.rowAxis (coords_row_bounds hr).1
    (coords_row_bounds hr).2 i

theorem owner_colIndex (j : Int) :
    l.distribution.colAxis.owner (l.colIndex r j) = (l.grid.coords r).2 :=
  Axis.owner_index l.onGrid.positive.colAxis (coords_col_bounds hr).1
    (coords_col_bounds hr).2 j

omit hr in
theorem active_of_owner {i : Int}
    (howner : (l.grid.coords r).1 = l.distribution.rowAxis.owner i) :
    l.grid.active r = true := by
  cases hactive : l.grid.active r with
  | true => rfl
  | false =>
      have hnonneg := Axis.owner_nonneg l.onGrid.positive.rowAxis i
      rw [← howner] at hnonneg
      unfold Grid.coords at hnonneg
      rw [hactive] at hnonneg
      change (0 : Int) ≤ -1 at hnonneg
      exact absurd hnonneg (by decide)

omit hr in
theorem slots_lt_localShape {i j : Int} (hi : i < l.rows) (hj : j < l.cols)
    (hrow : (l.grid.coords r).1 = l.distribution.rowAxis.owner i)
    (hcol : (l.grid.coords r).2 = l.distribution.colAxis.owner j) :
    l.distribution.rowAxis.slot i < (l.localShape r).1 ∧
      l.distribution.colAxis.slot j < (l.localShape r).2 := by
  have hrowSlot := Axis.slot_lt_extent l.onGrid.positive.rowAxis hi
  have hcolSlot := Axis.slot_lt_extent l.onGrid.positive.colAxis hj
  rw [localShape_of_active (active_of_owner hrow), hrow, hcol]
  exact ⟨Int.lt_of_lt_of_le hrowSlot (Int.self_le_toNat _),
    Int.lt_of_lt_of_le hcolSlot (Int.self_le_toNat _)⟩

/-!
# Writing an entry
-/

section

variable [Zero alpha] {x : Dense alpha} {i j : Int}
  (hrows : x.rows = l.rows) (hcols : x.cols = l.cols) (hi : 0 ≤ i) (hj : 0 ≤ j)

include hrows hcols hi hj

omit hr in
theorem write_piece_of_owner
    (hrow : (l.grid.coords r).1 = l.distribution.rowAxis.owner i)
    (hcol : (l.grid.coords r).2 = l.distribution.colAxis.owner j) (value : alpha) :
    (Selection.element (l.distribution.rowAxis.slot i).toNat
        (l.distribution.colAxis.slot j).toNat).write (l.piece x r) value =
      l.piece (x.set i.toNat j.toNat value) r := by
  unfold Selection.write
  apply l.eq_piece
  · rw [Dense.rows_mapPlaces, rows_piece]
  · rw [Dense.cols_mapPlaces, cols_piece]
  · intro a b ha hb
    have hinside : (l.rowIndex r a).toNat < x.rows ∧ (l.colIndex r b).toNat < x.cols := by
      rw [hrows, hcols]
      exact ⟨l.rowIndex_lt r ha, l.colIndex_lt r hb⟩
    have hplace := and_congr
      (Axis.eq_slot_iff l.onGrid.positive.rowAxis hi hrow a)
      (Axis.eq_slot_iff l.onGrid.positive.colAxis hj hcol b)
    unfold Dense.set
    rw [Dense.get_mapPlaces, rows_piece, cols_piece, if_pos ⟨ha, hb⟩, l.get_piece x r ha hb,
      Dense.get_mapPlaces, if_pos hinside]
    unfold Selection.contains
    simp only [Bool.and_eq_true, beq_iff_eq]
    exact if_congr hplace rfl rfl

omit hr in
theorem piece_set_of_other
    (hother : ¬((l.grid.coords r).1 = l.distribution.rowAxis.owner i ∧
      (l.grid.coords r).2 = l.distribution.colAxis.owner j)) (value : alpha) :
    l.piece x r = l.piece (x.set i.toNat j.toNat value) r := by
  cases hactive : l.grid.active r with
  | false =>
      exact l.eq_piece_of_inactive _ hactive (l.rows_piece x r) (l.cols_piece x r)
  | true =>
      apply l.eq_piece (l.rows_piece x r) (l.cols_piece x r)
      intro a b ha hb
      have hinside : (l.rowIndex r a).toNat < x.rows ∧ (l.colIndex r b).toNat < x.cols := by
        rw [hrows, hcols]
        exact ⟨l.rowIndex_lt r ha, l.colIndex_lt r hb⟩
      have hrowNonneg := l.rowIndex_nonneg r a
      have hcolNonneg := l.colIndex_nonneg r b
      have hplace : ¬((l.rowIndex r a).toNat = i.toNat ∧
          (l.colIndex r b).toNat = j.toNat) := by
        rintro ⟨hsameRow, hsameCol⟩
        have hrow : l.rowIndex r a = i := by omega
        have hcol : l.colIndex r b = j := by omega
        apply hother
        rw [← hrow, ← hcol, owner_rowIndex hactive, owner_colIndex hactive]
        exact ⟨rfl, rfl⟩
      unfold Dense.set
      rw [l.get_piece x r ha hb, Dense.get_mapPlaces, if_pos hinside, if_neg hplace]

end

end Layout

/-!
# What the processes do
-/

def Part.entryEffect [Zero alpha] (l : Layout n) (w : Part alpha) (i j : Int)
    (value : alpha) : Effect alpha Unit :=
  if (0 ≤ i ∧ i < l.rows) ∧ (0 ≤ j ∧ j < l.cols) then
    ⟨{ w with block := w.block.set i.toNat j.toNat value }, .ok ()⟩
  else .refuse w (.index (.globalElement (.whole i) (.whole j) l.rows l.cols))

theorem Part.fits_entryEffect [Zero alpha] {l : Layout n} {w : Part alpha} {m k : Nat}
    (h : w.Fits m k) (i j : Int) (value : alpha) :
    (w.entryEffect l i j value).part.Fits m k := by
  unfold entryEffect
  split
  · exact
      { rows := h.rows
        cols := h.cols
        symmetric := h.symmetric
        freshSymmetric := h.freshSymmetric
        cholesky := h.cholesky }
  · exact h

namespace DistributedMatrix

variable [Zero alpha] {a : DistributedMatrix n alpha} {w : Part alpha}

omit [Zero alpha] in
theorem selection_of_inside {r : Fin n} {i j : Int}
    (hi : 0 ≤ i ∧ i < (a.layout.localShape r).1) (hj : 0 ≤ j ∧ j < (a.layout.localShape r).2) :
    a.selection r (.whole i) (.whole j) = .ok (.element i.toNat j.toNat) := by
  unfold selection Layout.checkLocal
  simp only
  rw [Subscript.bothBelow?_whole, decide_eq_true ⟨hi, hj⟩]
  rfl

theorem setElement_of_owner (h : a.Holds w) {i j : Int} (hi : 0 ≤ i ∧ i < a.layout.rows)
    (hj : 0 ≤ j ∧ j < a.layout.cols) {r : Fin n}
    (hrow : (a.layout.grid.coords r).1 = a.layout.distribution.rowAxis.owner i)
    (hcol : (a.layout.grid.coords r).2 = a.layout.distribution.colAxis.owner j)
    (value : alpha) :
    (a.setElement r (.whole (a.layout.distribution.rowAxis.slot i))
      (.whole (a.layout.distribution.colAxis.slot j)) value).Shows a.layout r
        ⟨{ w with block := w.block.set i.toNat j.toNat value }, .ok ()⟩ := by
  have hrowSlot := Axis.slot_nonneg a.layout.onGrid.positive.rowAxis hi.1
  have hcolSlot := Axis.slot_nonneg a.layout.onGrid.positive.colAxis hj.1
  have hslots := Layout.slots_lt_localShape hi.2 hj.2 hrow hcol
  unfold setElement
  simp only
  rw [selection_of_inside ⟨hrowSlot, hslots.1⟩ ⟨hcolSlot, hslots.2⟩, h.parts r]
  refine ⟨?_, rfl⟩
  unfold Reply.answer Part.piece
  simp only
  rw [Layout.write_piece_of_owner h.fits.rows h.fits.cols hi.1 hj.1 hrow hcol value]

end DistributedMatrix
end BlockCyclic
