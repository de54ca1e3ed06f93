import BlockCyclic.Proofs.Matrix.Entries
import BlockCyclic.Proofs.Region.Enumeration

/-!
# Who owns an entry

The ownership map counts the owners of all entries along the grid, from the deal of both axes
alone. The processes are numbered row by row, so that its numbers are those of the processes
whose grid positions the addresses name. The regions that a matrix is scattered over and the
indices of the local blocks are those of the same processes.
-/

namespace BlockCyclic

variable {n : Nat} {alpha beta gamma : Type}

/-!
# Counting in a table
-/

/-- In a row, a value stands in all columns of one kind or in none. -/
theorem count_row [BEq gamma] [LawfulBEq gamma] {ys : List beta} {entry : beta -> gamma}
    {value : gamma} {p : Bool} {q : beta -> Bool}
    (h : forall y, y ∈ ys -> (entry y = value ↔ p = true ∧ q y = true)) :
    (ys.map entry).count value = if p then (ys.filter q).length else 0 := by
  rw [List.count_eq_countP, List.countP_map]
  cases p with
  | true =>
      rw [if_pos rfl, ← List.countP_eq_length_filter]
      apply List.countP_congr
      intro y hy
      rw [Function.comp_apply, beq_iff_eq, h y hy]
      exact and_iff_right rfl
  | false =>
      rw [if_neg Bool.false_ne_true, List.countP_eq_zero]
      intro y hy hentry
      rw [Function.comp_apply, beq_iff_eq, h y hy] at hentry
      cases hentry.1

/-- In a table, a value stands where rows of one kind meet columns of one kind. -/
theorem count_table [BEq gamma] [LawfulBEq gamma] {xs : List alpha} {ys : List beta}
    {entry : alpha -> beta -> gamma} {value : gamma} {p : alpha -> Bool} {q : beta -> Bool}
    (h : forall x, x ∈ xs -> forall y, y ∈ ys ->
      (entry x y = value ↔ p x = true ∧ q y = true)) :
    (xs.map fun x => ys.map (entry x)).flatten.count value =
      (xs.filter p).length * (ys.filter q).length := by
  induction xs with
  | nil => exact (Nat.zero_mul _).symm
  | cons x rest ih =>
      have hrow := count_row (h x List.mem_cons_self)
      have hrest := ih fun y hy => h y (List.mem_cons_of_mem x hy)
      rw [List.map_cons, List.flatten_cons, List.count_append, hrow, hrest]
      cases hx : p x with
      | true =>
          rw [List.filter_cons_of_pos hx, List.length_cons, Nat.succ_mul, Nat.add_comm]
          rfl
      | false =>
          rw [List.filter_cons_of_neg (by rw [hx]; exact Bool.false_ne_true)]
          exact Nat.zero_add _

/-!
# Positions of processes
-/

/-- The owner of an index, where the axis is dealt out to the given number of processes. -/
def Axis.ownerAmong (a : Axis) (ha : a.Positive) {procs : Nat} (hprocs : a.procs = procs)
    (g : Int) : Fin procs :=
  ⟨(a.owner g).toNat, by
    have hlt := owner_lt ha g
    rw [hprocs] at hlt
    exact (Int.toNat_lt (owner_nonneg ha g)).mpr hlt⟩

theorem Axis.val_ownerAmong {a : Axis} (ha : a.Positive) {procs : Nat}
    (hprocs : a.procs = procs) (g : Int) : ((a.ownerAmong ha hprocs g).val : Int) = a.owner g :=
  Int.toNat_of_nonneg (owner_nonneg ha g)

namespace Layout

variable (l : Layout n)

def ownerAt (i j : Int) : Fin n :=
  l.grid.processAt
    (l.distribution.rowAxis.ownerAmong l.onGrid.positive.rowAxis l.onGrid.rowProcs i)
    (l.distribution.colAxis.ownerAmong l.onGrid.positive.colAxis l.onGrid.colProcs j)

theorem active_ownerAt (i j : Int) : l.grid.active (l.ownerAt i j) = true :=
  l.grid.active_processAt _ _

theorem coords_eq_owner_iff {r : Fin n} {i j : Int} :
    l.grid.coords r = (l.distribution.rowAxis.owner i, l.distribution.colAxis.owner j) ↔
      r = l.ownerAt i j := by
  rw [← Axis.val_ownerAmong l.onGrid.positive.rowAxis l.onGrid.rowProcs,
    ← Axis.val_ownerAmong l.onGrid.positive.colAxis l.onGrid.colProcs]
  exact l.grid.coords_eq_iff

theorem val_ownerAt (i j : Int) :
    ((l.ownerAt i j).val : Int) =
      l.distribution.rowAxis.owner i * l.grid.cols + l.distribution.colAxis.owner j := by
  rw [← Axis.val_ownerAmong l.onGrid.positive.rowAxis l.onGrid.rowProcs,
    ← Axis.val_ownerAmong l.onGrid.positive.colAxis l.onGrid.colProcs, Int.add_comm]
  unfold ownerAt Grid.processAt
  rw [Int.natCast_add, Int.natCast_mul]

theorem ownerOf_eq (i j : Nat) : l.ownerOf i j = (l.ownerAt i j).val := by
  rw [val_ownerAt]
  unfold ownerOf Distribution.ownerRank
  rw [l.onGrid.colProcs]

/-!
# Regions and local blocks
-/

section

variable {l} {i j : Nat} (hi : i < l.rows) (hj : j < l.cols)

include hi hj

theorem mem_indices_iff {r : Fin n} :
    i ∈ (l.indices r).rows ∧ j ∈ (l.indices r).cols ↔ r = l.ownerAt i j := by
  cases hr : l.grid.active r with
  | false =>
      constructor
      · rintro ⟨hmem, _⟩
        have hsize := l.size_rows_indices r
        rw [localShape_of_inactive hr] at hsize
        rw [Array.eq_empty_of_size_eq_zero hsize] at hmem
        exact absurd hmem (Array.not_mem_empty i)
      · rintro rfl
        rw [active_ownerAt] at hr
        cases hr
  | true =>
      have hposition : l.distribution.Position (l.grid.coords r).1 (l.grid.coords r).2 :=
        ⟨coords_row_bounds hr, coords_col_bounds hr⟩
      have hregion : l.indices r =
          l.distribution.region (l.grid.coords r).1 (l.grid.coords r).2 := by
        rw [l.indices_of_active hr, Grid.coords_of_active hr]
        unfold Distribution.memberRegion
        rw [l.onGrid.colProcs]
      rw [hregion, Distribution.mem_region l.onGrid.positive hposition,
        and_iff_right ⟨Int.ofNat_lt.mpr hi, Int.ofNat_lt.mpr hj⟩, eq_comm]
      exact l.coords_eq_owner_iff

theorem mem_memberRegion_iff {k : Nat} (hk : k < l.grid.activeCount) :
    i ∈ (l.distribution.memberRegion k).rows ∧ j ∈ (l.distribution.memberRegion k).cols ↔
      k = (l.ownerAt i j).val := by
  let r : Fin n := ⟨k, Nat.lt_of_lt_of_le hk l.grid.activeCount_le⟩
  have hr : l.grid.active r = true := (l.grid.active_iff r).mpr hk
  have hindices := mem_indices_iff hi hj (r := r)
  rw [l.indices_of_active hr, Fin.ext_iff] at hindices
  exact hindices

/-- The regions over which a matrix is scattered are those of the active processes. -/
theorem exists_region_iff {k : Nat} :
    (exists region,
      (l.distribution.blockTable l.grid.activeCount).regions[k]? = some region ∧
        i ∈ region.rows ∧ j ∈ region.cols) ↔ k = (l.ownerAt i j).val := by
  have hlength := l.distribution.length_regions_blockTable l.grid.activeCount
  constructor
  · rintro ⟨region, hregion, hmem⟩
    rcases List.getElem?_eq_some_iff.mp hregion with ⟨hlt, rfl⟩
    rw [Distribution.getElem_regions_blockTable] at hmem
    rw [hlength] at hlt
    exact (mem_memberRegion_iff hi hj hlt).mp hmem
  · rintro rfl
    have hactive := (l.grid.active_iff _).mp (l.active_ownerAt i j)
    refine ⟨_, ?_, (mem_memberRegion_iff hi hj hactive).mpr rfl⟩
    rw [List.getElem?_eq_getElem (by rw [hlength]; exact hactive),
      Distribution.getElem_regions_blockTable]

end

/-!
# The ownership map
-/

theorem entry_ownershipMap {i j : Nat} (hi : i < l.rows) (hj : j < l.cols) :
    (l.ownershipMap[i]?.bind fun row => row[j]?) = some ((l.ownerAt i j).val : Int) := by
  unfold ownershipMap
  simp [hi, hj, ownerOf_eq]

theorem count_ownershipMap (r : Fin n) :
    l.ownershipMap.flatten.count (r.val : Int) = (l.localShape r).1 * (l.localShape r).2 := by
  have howner : forall i j : Nat, l.ownerOf i j = (r.val : Int) ↔ r = l.ownerAt i j := by
    intro i j
    rw [ownerOf_eq, Int.natCast_inj, eq_comm, Fin.ext_iff]
  cases hr : l.grid.active r with
  | false =>
      rw [localShape_of_inactive hr]
      show _ = 0
      rw [List.count_eq_zero]
      intro hmem
      rcases List.mem_flatten.mp hmem with ⟨row, hrow, hentry⟩
      rcases List.mem_map.mp hrow with ⟨i, _, rfl⟩
      rcases List.mem_map.mp hentry with ⟨j, _, heq⟩
      rw [(howner i j).mp heq, active_ownerAt] at hr
      cases hr
  | true =>
      have hrow := coords_row_bounds hr
      have hcol := coords_col_bounds hr
      have hrows := Axis.length_filter_owner l.onGrid.positive.rowAxis (n := l.rows) hrow.1 hrow.2
      have hcols := Axis.length_filter_owner l.onGrid.positive.colAxis (n := l.cols) hcol.1 hcol.2
      rw [localShape_of_active hr]
      unfold Distribution.localShape
      refine Eq.trans ?_ (congrArg₂ (· * ·) hrows hcols)
      apply count_table
      intro i _ j _
      rw [howner, ← coords_eq_owner_iff, Prod.ext_iff, beq_iff_eq, beq_iff_eq]
      exact and_congr eq_comm eq_comm

/--
The map has the number of the process in whose region of a scattered matrix an entry lies, and
in whose block. Counted along the grid, it is the position that the address of the entry names;
the process with this number has this position. Every process is in the map as often as it has
entries.
-/
theorem ownership_agrees :
    (l.ownershipMap.length = l.rows ∧
      forall row, row ∈ l.ownershipMap -> row.length = l.cols) ∧
    (forall i j : Nat, i < l.rows -> j < l.cols -> exists (r : Fin n) (place : Address),
      (l.ownershipMap[i]?.bind fun row => row[j]?) = some (r.val : Int) ∧
      r.val < l.grid.rows * l.grid.cols ∧
      (forall k, (exists region,
          (l.distribution.blockTable (l.grid.rows * l.grid.cols)).regions[k]? = some region ∧
            i ∈ region.rows ∧ j ∈ region.cols) ↔ k = r.val) ∧
      (forall s, i ∈ (l.indices s).rows ∧ j ∈ (l.indices s).cols ↔ s = r) ∧
      l.address (.whole i) (.whole j) = .ok place ∧
      (r.val : Int) = place.processRow * l.grid.cols + place.processCol ∧
      (forall s, l.grid.coords s = (place.processRow, place.processCol) ↔ s = r)) ∧
    (forall r : Fin n,
      l.ownershipMap.flatten.count (r.val : Int) = (l.localShape r).1 * (l.localShape r).2) := by
  refine ⟨⟨?_, ?_⟩, ?_, l.count_ownershipMap⟩
  · unfold ownershipMap
    rw [List.length_map, List.length_range]
  · intro row hrow
    rcases List.mem_map.mp hrow with ⟨i, _, rfl⟩
    rw [List.length_map, List.length_range]
  · intro i j hi hj
    have hactive := (l.grid.active_iff _).mp (l.active_ownerAt i j)
    refine ⟨l.ownerAt i j, _, l.entry_ownershipMap hi hj, hactive, ?_,
      fun s => mem_indices_iff hi hj,
      address_of_inside ⟨Int.natCast_nonneg i, Int.ofNat_lt.mpr hi⟩
        ⟨Int.natCast_nonneg j, Int.ofNat_lt.mpr hj⟩,
      l.val_ownerAt i j, fun s => l.coords_eq_owner_iff⟩
    intro k
    exact exists_region_iff hi hj

/-- Blocks of one entry on four of five processes. -/
theorem ownership_agrees_one_left_out :
    let l : Layout 5 := ⟨⟨2, 2, by decide, by decide, by decide, fun _ => 0, false⟩,
      3, 2, 1, 1, .double, by decide, by decide, by decide, by decide⟩
    l.ownershipMap = [[0, 1], [2, 3], [0, 1]] ∧
    (exists place, l.address (.whole 2) (.whole 1) = .ok place ∧
      (1 : Int) = place.processRow * 2 + place.processCol) ∧
    l.ownershipMap.flatten.count 4 = 0 := by
  intro l
  rcases ownership_agrees l with ⟨_, hentries, hcounts⟩
  rcases hentries 2 1 (by decide) (by decide) with
    ⟨r, place, hentry, _, _, _, haddress, hnumber, _⟩
  have hmap : (l.ownershipMap[2]?.bind fun row => row[1]?) = some 1 := by decide
  have hr : (r.val : Int) = 1 := Option.some.inj (hentry.symm.trans hmap)
  rw [hr] at hnumber
  exact ⟨by decide, ⟨place, haddress, hnumber⟩, hcounts 4⟩

end Layout
end BlockCyclic
