import BlockCyclic.Distribution
import BlockCyclic.Proofs.Axis.Deal

/-!
# Places of indices in a region

A region lists the indices of a grid position in local order. An index stands in that
list exactly when the position owns it, and then at the place of its local slot. A
matrix is cut into regions and put together again through these places.
-/

namespace BlockCyclic
namespace Axis

def places (a : Axis) (n p : Int) : Array Nat :=
  ((a.indices n p).map Int.toNat).toArray

theorem size_places (a : Axis) (n p : Int) :
    (a.places n p).size = (a.extent n p).toNat := by
  simp [places, indices]

theorem getElem_places (a : Axis) (n p : Int) {k : Nat}
    (hk : k < (a.places n p).size) :
    (a.places n p)[k] = (a.index p k).toNat := by
  simp [places, indices]

theorem getD_places (a : Axis) (n p : Int) {k : Nat}
    (hk : k < (a.extent n p).toNat) :
    (a.places n p).getD k 0 = (a.index p k).toNat := by
  have hsize : k < (a.places n p).size := by
    rw [size_places]
    exact hk
  rw [Array.getD, dif_pos hsize]
  exact getElem_places a n p hsize

theorem places_eq_map (a : Axis) (n p : Int) :
    a.places n p =
      (Array.range (a.extent n p).toNat).map fun k : Nat => (a.index p k).toNat := by
  apply Array.ext
  · rw [size_places, Array.size_map, Array.size_range]
  · intro k hk hrange
    rw [getElem_places, Array.getElem_map, Array.getElem_range]

section

variable {a : Axis} (ha : a.Positive)

include ha

theorem places_strictMono (n p : Int) {j k : Nat} (h : j < k)
    (hj : j < (a.places n p).size) (hk : k < (a.places n p).size) :
    (a.places n p)[j] < (a.places n p)[k] := by
  rw [getElem_places, getElem_places]
  have hstep := index_strictMono ha p (Int.ofNat_lt.mpr h)
  have hleft := index_nonneg ha p (Int.natCast_nonneg j)
  omega

theorem idxOf?_places_self (n p : Int) {k : Nat} (hk : k < (a.places n p).size) :
    (a.places n p).idxOf? (a.places n p)[k] = some k := by
  show (List.toArray _).idxOf? _ = _
  rw [List.idxOf?_toArray, List.idxOf?_eq_some_iff]
  refine ⟨hk, rfl, ?_⟩
  intro j hj heq
  exact Nat.ne_of_lt (places_strictMono ha n p hj _ hk) heq

theorem idxOf?_places_owner {n : Int} {i : Nat} (hi : (i : Int) < n) :
    (a.places n (a.owner i)).idxOf? i = some (a.slot i).toNat := by
  have hslot := slot_nonneg ha (Int.natCast_nonneg i)
  have hlt := slot_lt_extent ha hi
  have hk : (a.slot i).toNat < (a.places n (a.owner i)).size := by
    rw [size_places]
    omega
  have hvalue : (a.places n (a.owner i))[(a.slot i).toNat] = i := by
    rw [getElem_places, Int.toNat_of_nonneg hslot, index_owner_slot ha]
    exact Int.toNat_natCast i
  have hself := idxOf?_places_self ha n (a.owner i) hk
  rw [hvalue] at hself
  exact hself

/-- What a process lists lies below `n`, and the process owns it. -/
theorem owner_of_mem_places {n p : Int} (hp : 0 ≤ p) (hlt : p < a.procs) {i : Nat}
    (h : i ∈ a.places n p) :
    (i : Int) < n ∧ a.owner i = p := by
  rcases Array.mem_iff_getElem.mp h with ⟨k, hk, hvalue⟩
  rw [getElem_places] at hvalue
  have hnonneg := index_nonneg ha p (Int.natCast_nonneg k)
  have hindex : (i : Int) = a.index p k := by omega
  rw [size_places] at hk
  constructor
  · rw [hindex, ← lt_extent_iff ha]
    omega
  · rw [hindex]
    exact owner_index ha hp hlt k

end

end Axis

/-!
# Positions of a grid
-/

namespace Distribution

/-- Both axes are dealt out to somebody, in blocks that are not empty. -/
structure Positive (d : Distribution) : Prop where
  rowAxis : d.rowAxis.Positive
  colAxis : d.colAxis.Positive

theorem atOrigin_positive {shape blocks grid : Int × Int}
    (hrowBlock : 0 < blocks.1) (hcolBlock : 0 < blocks.2)
    (hrows : 0 < grid.1) (hcols : 0 < grid.2) :
    (atOrigin shape blocks grid).Positive :=
  ⟨⟨hrowBlock, hrows⟩, ⟨hcolBlock, hcols⟩⟩

theorem region_eq (d : Distribution) (prow pcol : Int) :
    d.region prow pcol =
      ⟨d.rowAxis.places d.rows prow, d.colAxis.places d.cols pcol⟩ :=
  rfl

def slots (d : Distribution) (i j : Nat) : Nat × Nat :=
  ((d.rowAxis.slot i).toNat, (d.colAxis.slot j).toNat)

def regionOf (d : Distribution) (i j : Nat) : Region :=
  d.region (d.rowAxis.owner i) (d.colAxis.owner j)

end Distribution
end BlockCyclic
