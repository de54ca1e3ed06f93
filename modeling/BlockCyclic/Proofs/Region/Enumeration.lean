import BlockCyclic.Proofs.Region.Places
import BlockCyclic.Proofs.Region.Tables
import Mathlib.Data.List.Sort

/-!
# Regions list what is owned

The indices of a process are computed from their number, without looking at any index of
another process. Read as a list they are the indices below `n` that the process owns, in
ascending order. Every index has one owner along each axis, so that the regions of all
positions of a grid tile the matrix.
-/

namespace BlockCyclic
namespace Axis

/-!
# The indices of a process
-/

def owned (a : Axis) (n p : Int) : List Int :=
  ((List.range n.toNat).map Int.ofNat).filter fun g => a.owner g == p

theorem pairwise_owned (a : Axis) (n p : Int) : (a.owned n p).Pairwise (· < ·) := by
  apply List.Pairwise.filter
  apply List.Pairwise.map _ _ List.pairwise_lt_range
  intro g k h
  exact Int.ofNat_lt.mpr h

theorem mem_owned (a : Axis) {n p g : Int} :
    g ∈ a.owned n p ↔ (0 ≤ g ∧ g < n) ∧ a.owner g = p := by
  unfold owned
  rw [List.mem_filter, beq_iff_eq, List.mem_map]
  apply and_congr_left'
  constructor
  · rintro ⟨k, hk, rfl⟩
    exact ⟨Int.natCast_nonneg k, Int.lt_toNat.mp (List.mem_range.mp hk)⟩
  · rintro ⟨hg, hlt⟩
    refine ⟨g.toNat, List.mem_range.mpr ?_, Int.toNat_of_nonneg hg⟩
    exact (Int.toNat_lt_toNat (Int.lt_of_le_of_lt hg hlt)).mpr hlt

section

variable {a : Axis} (ha : a.Positive)

include ha

theorem pairwise_indices (n p : Int) : (a.indices n p).Pairwise (· < ·) := by
  apply List.Pairwise.map _ _ List.pairwise_lt_range
  intro l k h
  exact index_strictMono ha p (Int.ofNat_lt.mpr h)

theorem mem_indices {n p : Int} (hp : 0 ≤ p) (hlt : p < a.procs) {g : Int} :
    g ∈ a.indices n p ↔ (0 ≤ g ∧ g < n) ∧ a.owner g = p := by
  unfold indices
  rw [List.mem_map]
  constructor
  · rintro ⟨l, hl, rfl⟩
    have hbound : (l : Int) < a.extent n p := Int.lt_toNat.mp (List.mem_range.mp hl)
    exact ⟨⟨index_nonneg ha p (Int.natCast_nonneg l), (lt_extent_iff ha n p l).mp hbound⟩,
      owner_index ha hp hlt l⟩
  · rintro ⟨⟨hg, hbelow⟩, rfl⟩
    have hslot := slot_nonneg ha hg
    have hbound := slot_lt_extent ha hbelow
    refine ⟨(a.slot g).toNat, List.mem_range.mpr ?_, ?_⟩
    · omega
    · rw [Int.toNat_of_nonneg hslot]
      exact index_owner_slot ha g

theorem indices_eq_owned {n p : Int} (hp : 0 ≤ p) (hlt : p < a.procs) :
    a.indices n p = a.owned n p := by
  apply (pairwise_indices ha n p).eq_of_mem_iff (a.pairwise_owned n p)
  intro g
  rw [mem_indices ha hp hlt, mem_owned]

/-- As natural numbers, the indices of a process are a selection of the first ones. -/
theorem toList_places {n p : Int} (hp : 0 ≤ p) (hlt : p < a.procs) :
    (a.places n p).toList = (List.range n.toNat).filter fun g : Nat => a.owner g == p := by
  unfold places
  rw [indices_eq_owned ha hp hlt, owned, List.filter_map, List.map_map]
  exact List.map_id' _

theorem length_filter_owner {n p : Int} (hp : 0 ≤ p) (hlt : p < a.procs) :
    ((List.range n.toNat).filter fun g : Nat => a.owner g == p).length =
      (a.extent n p).toNat := by
  rw [← toList_places ha hp hlt, Array.length_toList, size_places]

theorem mem_places {n p : Int} (hp : 0 ≤ p) (hlt : p < a.procs) {g : Nat} :
    g ∈ a.places n p ↔ (g : Int) < n ∧ a.owner g = p := by
  rw [Array.mem_def, toList_places ha hp hlt, List.mem_filter, beq_iff_eq, List.mem_range,
    Int.lt_toNat]

end
end Axis

/-!
# The regions of a grid
-/

namespace Distribution

/-- The positions of the grid over which a distribution deals its axes. -/
def Position (d : Distribution) (prow pcol : Int) : Prop :=
  (0 ≤ prow ∧ prow < d.rowAxis.procs) ∧ (0 ≤ pcol ∧ pcol < d.colAxis.procs)

variable {d : Distribution} (hd : d.Positive)

include hd

theorem mem_region {prow pcol : Int} (h : d.Position prow pcol) {i j : Nat} :
    i ∈ (d.region prow pcol).rows ∧ j ∈ (d.region prow pcol).cols ↔
      ((i : Int) < d.rows ∧ (j : Int) < d.cols) ∧
        (d.rowAxis.owner i, d.colAxis.owner j) = (prow, pcol) := by
  rw [region_eq, Axis.mem_places hd.rowAxis h.1.1 h.1.2,
    Axis.mem_places hd.colAxis h.2.1 h.2.2, Prod.mk.injEq]
  exact and_and_and_comm

theorem position_owner (i j : Int) : d.Position (d.rowAxis.owner i) (d.colAxis.owner j) :=
  ⟨⟨Axis.owner_nonneg hd.rowAxis i, Axis.owner_lt hd.rowAxis i⟩,
    ⟨Axis.owner_nonneg hd.colAxis j, Axis.owner_lt hd.colAxis j⟩⟩

/--
At every position the rows and the columns are those that the position owns, in ascending
order, also where they are computed as tables of words; and every entry of the matrix lies in
the region of one position.
-/
theorem regions_enumerate_owned (hrows : 0 ≤ d.rows) (hcols : 0 ≤ d.cols) :
    (forall prow pcol, d.Position prow pcol ->
      (d.rowAxis.indices d.rows prow = d.rowAxis.owned d.rows prow ∧
        d.colAxis.indices d.cols pcol = d.colAxis.owned d.cols pcol) ∧
      ((d.region prow pcol).rows.toList =
          (List.range d.rows.toNat).filter (fun g : Nat => d.rowAxis.owner g == prow) ∧
        (d.region prow pcol).cols.toList =
          (List.range d.cols.toNat).filter (fun g : Nat => d.colAxis.owner g == pcol)) ∧
      ((d.region prow pcol).rows.toList.Pairwise (· < ·) ∧
        (d.region prow pcol).cols.toList.Pairwise (· < ·)) ∧
      (d.rowAxis.Tabulated d.rows prow -> d.colAxis.Tabulated d.cols pcol ->
        RegionNumbers.ofArguments (.pair d.rows d.cols)
          (.pair d.rowAxis.block d.colAxis.block) (.pair d.rowAxis.procs d.colAxis.procs)
          (.pair prow pcol) (.pair d.rowAxis.source d.colAxis.source) =
            .ok ⟨(d.rowAxis.owned d.rows prow).map Number.int,
              (d.colAxis.owned d.cols pcol).map Number.int⟩)) ∧
    (forall i j : Nat, (i : Int) < d.rows -> (j : Int) < d.cols ->
      ∃! position : Int × Int, d.Position position.1 position.2 ∧
        i ∈ (d.region position.1 position.2).rows ∧
        j ∈ (d.region position.1 position.2).cols) := by
  constructor
  · intro prow pcol h
    have hrowIndices := Axis.indices_eq_owned hd.rowAxis (n := d.rows) h.1.1 h.1.2
    have hcolIndices := Axis.indices_eq_owned hd.colAxis (n := d.cols) h.2.1 h.2.2
    have hrowPlaces := Axis.toList_places hd.rowAxis (n := d.rows) h.1.1 h.1.2
    have hcolPlaces := Axis.toList_places hd.colAxis (n := d.cols) h.2.1 h.2.2
    refine ⟨⟨hrowIndices, hcolIndices⟩, ⟨hrowPlaces, hcolPlaces⟩, ?_, ?_⟩
    · rw [region_eq]
      simp only
      rw [hrowPlaces, hcolPlaces]
      exact ⟨List.pairwise_lt_range.filter _, List.pairwise_lt_range.filter _⟩
    · intro hrowTable hcolTable
      rw [← hrowIndices, ← hcolIndices]
      exact RegionNumbers.ofArguments_pairs hd.rowAxis hd.colAxis hrows hcols hrowTable hcolTable
  · intro i j hi hj
    refine ⟨(d.rowAxis.owner i, d.colAxis.owner j), ⟨position_owner hd i j, ?_⟩, ?_⟩
    · exact (mem_region hd (position_owner hd i j)).mpr ⟨⟨hi, hj⟩, rfl⟩
    · rintro ⟨prow, pcol⟩ ⟨hposition, hmem⟩
      exact ((mem_region hd hposition).mp hmem).2.symm

omit hd in
/-- Sources outside the grid, and a last block of rows that is not full. -/
theorem regions_enumerate_owned_five_rows :
    let d : Distribution := ⟨5, 3, ⟨2, 2, -1⟩, ⟨1, 2, 3⟩⟩
    d.Positive ∧ d.Position 1 0 ∧ (d.region 1 0).rows.toList = [0, 1, 4] ∧
      RegionNumbers.ofArguments (.pair 5 3) (.pair 2 1) (.pair 2 2) (.pair 1 0) (.pair (-1) 3) =
        .ok ⟨[.int 0, .int 1, .int 4], [.int 1]⟩ ∧
      exists position : Int × Int, d.Position position.1 position.2 ∧
        4 ∈ (d.region position.1 position.2).rows ∧
        2 ∈ (d.region position.1 position.2).cols := by
  intro d
  have hd : d.Positive := ⟨⟨by decide, by decide⟩, ⟨by decide, by decide⟩⟩
  have hposition : d.Position 1 0 := ⟨by decide, by decide⟩
  have hrowTable : d.rowAxis.Tabulated d.rows 1 := ⟨by decide, by decide, by decide⟩
  have hcolTable : d.colAxis.Tabulated d.cols 0 := ⟨by decide, by decide, by decide⟩
  rcases regions_enumerate_owned hd (by decide) (by decide) with ⟨hregions, htiled⟩
  rcases hregions 1 0 hposition with ⟨_, hplaces, _, hcomputed⟩
  refine ⟨hd, hposition, hplaces.1.trans (by decide), ?_, ?_⟩
  · exact (hcomputed hrowTable hcolTable).trans rfl
  · exact (htiled 4 2 (by decide) (by decide)).exists

end Distribution
end BlockCyclic
