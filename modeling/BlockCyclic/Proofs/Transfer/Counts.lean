import BlockCyclic.Proofs.Axis.Correspondence
import BlockCyclic.Proofs.Region.Tables
import BlockCyclic.Proofs.Transfer.RoundTrip
import Mathlib.Algebra.BigOperators.Ring.Finset
import Mathlib.Order.Interval.Set.Basic

/-!
# Counts and displacements

Every part of a flat buffer begins where the parts before it end. The parts therefore lie
beside each other and fill the buffer, however many of them are empty. The counts of a grid
are products of a number of rows and a number of columns, and those of all positions add up to
the entries of the matrix, so that they leave no gap and never meet a word that is too small.
-/

namespace BlockCyclic

/-!
# Sums of what comes before
-/

section

variable (counts : List Nat)

theorem sum_take_getD (k : Nat) :
    (counts.take (k + 1)).sum = (counts.take k).sum + counts.getD k 0 := by
  by_cases hk : k < counts.length
  · rw [List.sum_take_succ counts k hk, List.getD_eq_getElem counts 0 hk]
  · rw [List.take_of_length_le (by omega), List.take_of_length_le (by omega),
      List.getD_eq_default counts 0 (by omega), Nat.add_zero]

theorem sum_take_mono {k l : Nat} (h : k ≤ l) : (counts.take k).sum ≤ (counts.take l).sum := by
  induction h with
  | refl => exact Nat.le_refl _
  | step _ ih =>
      rw [sum_take_getD]
      exact ih.trans (Nat.le_add_right _ _)

theorem sum_take_add_le {k l : Nat} (h : k < l) :
    (counts.take k).sum + counts.getD k 0 ≤ (counts.take l).sum := by
  rw [← sum_take_getD]
  exact sum_take_mono counts h

theorem sum_take_add_le_sum (k : Nat) :
    (counts.take k).sum + counts.getD k 0 ≤ counts.sum := by
  have hall := sum_take_add_le counts (Nat.lt_of_lt_of_le (Nat.lt_succ_self k)
    (Nat.le_max_left (k + 1) counts.length))
  rwa [List.take_of_length_le (Nat.le_max_right _ _)] at hall

theorem exists_part {x : Nat} (hx : x < counts.sum) :
    exists k, k < counts.length ∧
      (counts.take k).sum ≤ x ∧ x < (counts.take k).sum + counts.getD k 0 := by
  induction counts generalizing x with
  | nil => cases hx
  | cons c rest ih =>
      rw [List.sum_cons] at hx
      by_cases hfirst : x < c
      · refine ⟨0, Nat.succ_pos _, Nat.zero_le _, ?_⟩
        rwa [List.take_zero, List.sum_nil, Nat.zero_add]
      · rcases ih (x := x - c) (by omega) with ⟨k, hk, hstart, hstop⟩
        refine ⟨k + 1, Nat.succ_lt_succ hk, ?_, ?_⟩
        · rw [List.take_succ_cons, List.sum_cons]
          omega
        · rw [List.take_succ_cons, List.sum_cons, List.getD_cons_succ]
          omega

end

/-- The sums of everything before each entry, as they come out in words. -/
def Words.sumsBefore (before : Int) : List Nat -> List Int
  | [] => []
  | c :: rest => before :: sumsBefore (wrap (before + c)) rest

/-- Where the whole sum is a word, no sum on the way to it wraps. -/
theorem Words.sumsBefore_eq {counts : List Nat} {before : Nat}
    (h : ((before + counts.sum : Nat) : Int) < bound) :
    sumsBefore before counts = (exclusiveSums.go before counts).map Int.ofNat := by
  induction counts generalizing before with
  | nil => rfl
  | cons c rest ih =>
      rw [List.sum_cons, ← Nat.add_assoc] at h
      have hfits : fits ((before + c : Nat) : Int) = true := by
        apply fits_of_le (Int.natCast_nonneg _) (Int.ofNat_le.mpr (Nat.le_add_right _ rest.sum))
        exact fits_iff.mpr ⟨Int.le_trans (by decide) (Int.natCast_nonneg _), h⟩
      rw [sumsBefore, exclusiveSums.go, List.map_cons, ← Int.natCast_add, wrap_of_fits hfits, ih h]
      rfl

/-!
# Tables that tile a buffer
-/

namespace BlockTable

def interval (t : BlockTable) (k : Nat) : Set Nat :=
  Set.Ico (t.displacements.getD k 0) (t.displacements.getD k 0 + t.counts.getD k 0)

/-- The intervals of the members follow each other and fill a buffer of the given size. -/
structure Tiles (t : BlockTable) (members size : Nat) : Prop where
  counts_length : t.counts.length = members
  displacements_length : t.displacements.length = members
  sum : t.counts.sum = size
  before : forall k, k < members -> t.displacements.getD k 0 = (t.counts.take k).sum
  inside : forall k, k < members ->
    t.displacements.getD k 0 + t.counts.getD k 0 ≤ size
  disjoint : forall k l, k < members -> l < members -> k ≠ l ->
    Disjoint (t.interval k) (t.interval l)
  covers : forall x, x < size <-> exists k, k < members ∧ x ∈ t.interval k

theorem length_exclusiveSums_go (counts : List Nat) (before : Nat) :
    (exclusiveSums.go before counts).length = counts.length := by
  induction counts generalizing before with
  | nil => rfl
  | cons c rest ih => rw [exclusiveSums.go, List.length_cons, ih, List.length_cons]

variable {t : BlockTable} (h : t.displacements = exclusiveSums t.counts)

include h

theorem displacement_eq {k : Nat} (hk : k < t.counts.length) :
    t.displacements.getD k 0 = (t.counts.take k).sum := by
  rw [h, getD_exclusiveSums t.counts hk]

theorem disjoint_interval {k l : Nat} (hlt : k < l) (hl : l < t.counts.length) :
    Disjoint (t.interval k) (t.interval l) := by
  have hbeside := sum_take_add_le t.counts hlt
  rw [← displacement_eq h (hlt.trans hl), ← displacement_eq h hl] at hbeside
  rw [Set.disjoint_left]
  intro x hx hother
  exact absurd (hx.2.trans_le hbeside) (Nat.not_lt.mpr hother.1)

theorem tiles_of_sums : t.Tiles t.counts.length t.counts.sum where
  counts_length := rfl
  displacements_length := by
    rw [h]
    exact length_exclusiveSums_go t.counts 0
  sum := rfl
  before := fun k hk => displacement_eq h hk
  inside := fun k hk => by
    rw [displacement_eq h hk]
    exact sum_take_add_le_sum t.counts k
  disjoint := fun k l hk hl hne => by
    rcases Nat.lt_or_gt_of_ne hne with hlt | hgt
    · exact disjoint_interval h hlt hl
    · exact (disjoint_interval h hgt hk).symm
  covers := fun x => by
    constructor
    · intro hx
      rcases exists_part t.counts hx with ⟨k, hk, hplace⟩
      rw [← displacement_eq h hk] at hplace
      exact ⟨k, hk, hplace⟩
    · rintro ⟨k, hk, hplace⟩
      have hinside := sum_take_add_le_sum t.counts k
      rw [← displacement_eq h hk] at hinside
      exact hplace.2.trans_le hinside

end BlockTable

theorem BlockTable.Tiles.size_part {t : BlockTable} {members size : Nat}
    (h : t.Tiles members size) {alpha : Type} {buffer : Array alpha} (hsize : buffer.size = size)
    {k : Nat} (hk : k < members) : (t.part buffer k).size = t.counts.getD k 0 := by
  have hinside := h.inside k hk
  unfold part
  rw [Array.size_extract, hsize, Nat.min_eq_left hinside, Nat.add_sub_cancel_left]

/-!
# Tables of grids
-/

namespace Distribution

variable {n : Nat} {alpha : Type} {d : Distribution} {rows cols : Nat}

theorem length_counts_blockTable (d : Distribution) (members : Nat) :
    (d.blockTable members).counts.length = members := by
  simp [blockTable]

section

variable (hd : d.OnGrid rows cols)

include hd

theorem count_memberRegion (i : Fin rows) (j : Fin cols) :
    (d.memberRegion (finProdFinEquiv (i, j)).val).count =
      (d.rowAxis.extent d.rows i.val).toNat * (d.colAxis.extent d.cols j.val).toNat := by
  have hnumber : (finProdFinEquiv (i, j)).val = d.memberAt i.val j.val := by
    unfold memberAt
    rw [hd.colProcs, finProdFinEquiv_apply_val, Nat.add_comm, Nat.mul_comm]
    exact_mod_cast (Int.toNat_natCast _).symm
  rcases memberAt_lt hd (Int.natCast_nonneg i.val)
    (by rw [hd.rowProcs]; exact Int.ofNat_lt.mpr i.isLt) (Int.natCast_nonneg j.val)
    (by rw [hd.colProcs]; exact Int.ofNat_lt.mpr j.isLt) with ⟨_, hdiv, hmod⟩
  unfold memberRegion Region.count
  rw [hnumber, hdiv, hmod, size_rows_region, size_cols_region]
  rfl

/-- Rows and columns of all positions make up all entries of the matrix. -/
theorem sum_counts_blockTable {m k : Nat} (hrows : d.rows = m) (hcols : d.cols = k) :
    (d.blockTable (rows * cols)).counts.sum = m * k := by
  have hdown : ∑ i : Fin rows, (d.rowAxis.extent m i.val).toNat = m := by
    have hall := Axis.sum_index hd.positive.rowAxis hd.rowProcs m fun _ => 1
    simpa using hall
  have hacross : ∑ j : Fin cols, (d.colAxis.extent k j.val).toNat = k := by
    have hall := Axis.sum_index hd.positive.colAxis hd.colProcs k fun _ => 1
    simpa using hall
  have hcounts : (d.blockTable (rows * cols)).counts =
      (List.range (rows * cols)).map fun member => (d.memberRegion member).count :=
    List.map_map
  calc (d.blockTable (rows * cols)).counts.sum
      = ∑ member ∈ Finset.range (rows * cols), (d.memberRegion member).count := by
        rw [hcounts]
        rfl
    _ = ∑ i : Fin rows, ∑ j : Fin cols, (d.memberRegion (finProdFinEquiv (i, j)).val).count := by
        rw [Finset.sum_range, ← finProdFinEquiv.sum_comp, Fintype.sum_prod_type]
    _ = (∑ i : Fin rows, (d.rowAxis.extent m i.val).toNat) *
          ∑ j : Fin cols, (d.colAxis.extent k j.val).toNat := by
        simp only [count_memberRegion hd, hrows, hcols, Finset.sum_mul_sum]
    _ = m * k := by rw [hdown, hacross]

theorem tiles_blockTable {m k : Nat} (hrows : d.rows = m) (hcols : d.cols = k) :
    (d.blockTable (rows * cols)).Tiles (rows * cols) (m * k) := by
  have htiles := BlockTable.tiles_of_sums
    (rfl : (d.blockTable (rows * cols)).displacements = exclusiveSums _)
  rwa [length_counts_blockTable, sum_counts_blockTable hd hrows hcols] at htiles

end

/-- A matrix that is scattered fills the buffer. -/
theorem size_pack [Zero alpha] (d : Distribution) (members : Nat) (x : Dense alpha) :
    ((d.blockTable members).pack x).size = (d.blockTable members).counts.sum := by
  rw [BlockTable.pack_eq_joined, size_joined, counts_blockTable d members x]

end Distribution
end BlockCyclic
