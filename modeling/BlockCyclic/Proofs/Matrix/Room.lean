import BlockCyclic.Kernel.Condition
import BlockCyclic.Matrix.Layout
import BlockCyclic.Proofs.Matrix.Entries
import BlockCyclic.Proofs.Region.Tables

/-!
# Room for a matrix

What a process computes of a layout has to be words, and what it makes of them has to have
room. Both hold of every matrix whose entries, and whose blocks on all processes, are no
more than a table can have entries.
-/

namespace BlockCyclic

variable {n : Nat}

namespace Layout

/-- Words hold the regions of the layout, and processes have room for what is made of them. -/
structure Roomy (l : Layout n) : Prop where
  blocks : forall r, l.checkRoom r = .ok ()
  regions : l.regionsFit = true
  indices : forall r, l.grid.active r = true -> l.checkIndices r = .ok ()
  whole : exists length, bufferLength l.entryBytes (l.rows * l.cols) = .ok length
  workspace : forall r, exists length, bufferLength l.entryBytes
    (Kernel.conditionWorkspace l.grid r (l.descriptor r)).1 = .ok length

/-- The entries, and a block of either axis on every process, are not too many for a table. -/
structure Small (l : Layout n) : Prop where
  entries : l.rows * l.cols ≤ roomForEntries
  rowBlocks : l.rowBlock * l.grid.activeCount ≤ roomForEntries
  colBlocks : l.colBlock * l.grid.activeCount ≤ roomForEntries

end Layout

theorem roomForEntries_eq : roomForEntries = 268435456 := by
  decide

theorem Words.bound_eq : bound = 9223372036854775808 := by
  decide

theorem bufferLength_of_room {bytes : Nat} (hbytes : bytes ≤ 8) {k : Int} (hk : 0 ≤ k)
    (hroom : k ≤ 6 * roomForEntries) : exists length, bufferLength bytes k = .ok length := by
  have hlimit : roomInBytes = 68719476736 := by decide
  have hbound := Words.bound_eq
  have hentries := roomForEntries_eq
  have hsize : k * bytes ≤ k * 8 :=
    Int.mul_le_mul_of_nonneg_left (Int.ofNat_le.mpr hbytes) hk
  have hpos : 0 ≤ k * bytes := Int.mul_nonneg hk (Int.natCast_nonneg bytes)
  have hfits : Words.fits (k * bytes) = true := Words.fits_iff.mpr (by omega)
  refine ⟨k, ?_⟩
  unfold bufferLength
  rw [hfits, Bool.not_true, Bool.or_false, decide_eq_false (Int.not_lt.mpr hk)]
  rw [if_neg Bool.false_ne_true, if_neg (by omega)]

/-- Where the blocks of a round are few enough, every slot is mapped in words. -/
theorem Axis.indicesFit_of_room {a : Axis} (ha : a.Positive)
    (hroom : a.block * a.procs ≤ roomForEntries) (p : Int) : a.indicesFit p = true := by
  have hbound := Words.bound_eq
  have hentries := roomForEntries_eq
  have hblock := ha.block
  have hprocs := ha.procs
  have hdist := offset_nonneg ha p
  have hblockLe := Int.mul_le_mul_of_nonneg_left (show 1 ≤ a.procs from hprocs)
    (Int.le_of_lt hblock)
  have hprocsLe := Int.mul_le_mul_of_nonneg_right (show 1 ≤ a.block from hblock)
    (Int.le_of_lt hprocs)
  have hstart := Int.mul_le_mul_of_nonneg_right (Int.le_of_lt (offset_lt ha p))
    (Int.le_of_lt hblock)
  have hpos := Int.mul_nonneg hdist (Int.le_of_lt hblock)
  rw [Int.mul_comm a.procs] at hstart
  have hfits : Words.fits a.block = true ∧ Words.fits a.procs = true ∧
      Words.fits (a.offset p * a.block) = true :=
    ⟨Words.fits_iff.mpr (by omega), Words.fits_iff.mpr (by omega),
      Words.fits_iff.mpr (by omega)⟩
  unfold indicesFit ownersFit
  rw [hfits.1, hfits.2.1, hfits.2.2]
  rfl

theorem Kernel.ceilDiv_pred_le {p q : Nat} (hp : 0 < p) (hq : 0 < q) :
    ceilDiv ((p : Int) - 1) q ≤ p := by
  have hpos : (0 : Int) < q := Int.ofNat_lt.mpr hq
  have hscaled := Int.mul_le_mul_of_nonneg_left (show 1 ≤ (q : Int) from hpos)
    (show 0 ≤ (p : Int) - 1 by omega)
  unfold ceilDiv
  rw [Int.fdiv_eq_ediv_of_nonneg _ (Int.le_of_lt hpos)]
  have hquotient : -((p : Int) - 1) ≤ -((p : Int) - 1) / q := by
    apply Int.le_ediv_of_mul_le hpos
    rw [Int.neg_mul]
    omega
  omega

namespace Layout

variable {l : Layout n}

theorem localShape_le (r : Fin n) :
    (l.localShape r).1 ≤ l.rows ∧ (l.localShape r).2 ≤ l.cols := by
  cases hr : l.grid.active r with
  | false =>
      rw [localShape_of_inactive hr]
      exact ⟨Nat.zero_le _, Nat.zero_le _⟩
  | true =>
      have hrows := Axis.extent_le l.onGrid.positive.rowAxis (Int.natCast_nonneg l.rows)
        (l.grid.coords r).1
      have hcols := Axis.extent_le l.onGrid.positive.colAxis (Int.natCast_nonneg l.cols)
        (l.grid.coords r).2
      rw [localShape_of_active hr]
      exact ⟨Int.toNat_le.mpr hrows, Int.toNat_le.mpr hcols⟩

theorem entryBytes_le (l : Layout n) : l.entryBytes ≤ 8 := by
  unfold entryBytes
  cases l.precision <;> decide

theorem checkAxis_of_room {length : Nat} (hlength : length ≤ roomForEntries) :
    checkAxis length true = .ok () := by
  unfold checkAxis
  rw [countingLength_of_room (Int.natCast_nonneg length) (Int.ofNat_le.mpr hlength)]
  rfl

namespace Small

variable (h : l.Small)

include h

theorem indicesFit_row (p : Int) : l.distribution.rowAxis.indicesFit p = true := by
  refine Axis.indicesFit_of_room l.onGrid.positive.rowAxis ?_ p
  have hrows : l.grid.rows ≤ l.grid.activeCount := Nat.le_mul_of_pos_right _ l.grid.cols_pos
  exact Int.ofNat_le.mpr (Nat.le_trans (Nat.mul_le_mul_left _ hrows) h.rowBlocks)

theorem indicesFit_col (p : Int) : l.distribution.colAxis.indicesFit p = true := by
  refine Axis.indicesFit_of_room l.onGrid.positive.colAxis ?_ p
  have hcols : l.grid.cols ≤ l.grid.activeCount := Nat.le_mul_of_pos_left _ l.grid.rows_pos
  exact Int.ofNat_le.mpr (Nat.le_trans (Nat.mul_le_mul_left _ hcols) h.colBlocks)

theorem rows_le : l.rows ≤ roomForEntries :=
  Nat.le_trans (Nat.le_mul_of_pos_right _ l.cols_pos) h.entries

theorem cols_le : l.cols ≤ roomForEntries :=
  Nat.le_trans (Nat.le_mul_of_pos_left _ l.rows_pos) h.entries

theorem checkRoom_eq (r : Fin n) : l.checkRoom r = .ok () := by
  have hshape := l.localShape_le r
  have hbound := Words.bound_eq
  have hentries := roomForEntries_eq
  have hroom := h.entries
  have hcount : (l.localShape r).1 * (l.localShape r).2 ≤ l.rows * l.cols :=
    Nat.mul_le_mul hshape.1 hshape.2
  have hlongest : max 1 (l.localShape r).1 * max 1 (l.localShape r).2 ≤ l.rows * l.cols :=
    Nat.mul_le_mul (Nat.max_le.mpr ⟨l.rows_pos, hshape.1⟩)
      (Nat.max_le.mpr ⟨l.cols_pos, hshape.2⟩)
  have hbytes := Nat.mul_le_mul hlongest l.entryBytes_le
  unfold checkRoom
  simp only
  rw [Words.fits_iff.mpr (by omega), Bool.not_true, if_neg Bool.false_ne_true,
    if_neg (by omega)]

theorem checkIndices_eq (r : Fin n) : l.checkIndices r = .ok () := by
  have hshape := l.localShape_le r
  unfold checkIndices
  simp only [h.indicesFit_row, h.indicesFit_col]
  rw [checkAxis_of_room (Nat.le_trans hshape.1 h.rows_le),
    checkAxis_of_room (Nat.le_trans hshape.2 h.cols_le)]
  rfl

theorem regionsFit_eq : l.regionsFit = true := by
  unfold regionsFit Distribution.regionsFit
  rw [Bool.and_eq_true, List.all_eq_true, List.all_eq_true]
  exact ⟨fun p _ => h.indicesFit_row p, fun p _ => h.indicesFit_col p⟩

theorem colBlock_mul_max_le {x : Int} (hx : x ≤ l.grid.activeCount) :
    0 ≤ (l.colBlock : Int) * max 1 x ∧ (l.colBlock : Int) * max 1 x ≤ roomForEntries := by
  have hblock := Int.natCast_nonneg l.colBlock
  have hcount : 1 ≤ l.grid.activeCount := Nat.mul_pos l.grid.rows_pos l.grid.cols_pos
  have hrounds : max 1 x ≤ l.grid.activeCount := by omega
  have hshare := Int.mul_le_mul_of_nonneg_left hrounds hblock
  have hroom : (l.colBlock : Int) * l.grid.activeCount ≤ roomForEntries :=
    Int.ofNat_le.mpr h.colBlocks
  exact ⟨Int.mul_nonneg hblock (by omega), Int.le_trans hshare hroom⟩

/-- The workspace is made of five extents and a block for some of the processes. -/
theorem conditionWorkspace_le (r : Fin n) :
    0 ≤ (Kernel.conditionWorkspace l.grid r (l.descriptor r)).1 ∧
      (Kernel.conditionWorkspace l.grid r (l.descriptor r)).1 ≤ 6 * roomForEntries := by
  have hcols := Int.natCast_nonneg l.cols
  have hroom : (l.cols : Int) ≤ roomForEntries := Int.ofNat_le.mpr h.cols_le
  have hrowExtent := Axis.extent_nonneg l.onGrid.positive.rowAxis hcols (l.grid.coords r).1
  have hrowExtentLe := Axis.extent_le l.onGrid.positive.rowAxis hcols (l.grid.coords r).1
  have hcolExtent := Axis.extent_nonneg l.onGrid.positive.colAxis hcols (l.grid.coords r).2
  have hcolExtentLe := Axis.extent_le l.onGrid.positive.colAxis hcols (l.grid.coords r).2
  have hrowsLe : l.grid.rows ≤ l.grid.activeCount := Nat.le_mul_of_pos_right _ l.grid.cols_pos
  have hcolsLe : l.grid.cols ≤ l.grid.activeCount := Nat.le_mul_of_pos_left _ l.grid.rows_pos
  have hdownRounds := Kernel.ceilDiv_pred_le l.grid.rows_pos l.grid.cols_pos
  have hacrossRounds := Kernel.ceilDiv_pred_le l.grid.cols_pos l.grid.rows_pos
  have hdown := h.colBlock_mul_max_le (Int.le_trans hdownRounds (Int.ofNat_le.mpr hrowsLe))
  have hacross := h.colBlock_mul_max_le (Int.le_trans hacrossRounds (Int.ofNat_le.mpr hcolsLe))
  have hentries := roomForEntries_eq
  change 0 ≤ 2 * l.distribution.rowAxis.extent l.cols (l.grid.coords r).1 +
      2 * l.distribution.colAxis.extent l.cols (l.grid.coords r).2 + max 2 _ ∧
    2 * l.distribution.rowAxis.extent l.cols (l.grid.coords r).1 +
      2 * l.distribution.colAxis.extent l.cols (l.grid.coords r).2 +
        max 2 (max (l.colBlock * max 1 (Kernel.ceilDiv (l.grid.rows - 1) l.grid.cols))
          (l.distribution.colAxis.extent l.cols (l.grid.coords r).2 +
            l.colBlock * max 1 (Kernel.ceilDiv (l.grid.cols - 1) l.grid.rows))) ≤ _
  omega

theorem roomy : l.Roomy where
  blocks := h.checkRoom_eq
  regions := h.regionsFit_eq
  indices := fun r _ => h.checkIndices_eq r
  whole := by
    refine bufferLength_of_room l.entryBytes_le (Int.natCast_nonneg _) ?_
    have hentries := h.entries
    omega
  workspace := fun r =>
    bufferLength_of_room l.entryBytes_le (h.conditionWorkspace_le r).1 (h.conditionWorkspace_le r).2

end Small

example :
    (⟨⟨2, 2, by decide, by decide, by decide, fun _ => 1, false⟩, 1000, 1000, 32, 32, .double,
      by decide, by decide, by decide, by decide⟩ : Layout 5).Roomy :=
  Small.roomy ⟨by decide, by decide, by decide⟩

end Layout
end BlockCyclic
