import BlockCyclic.Proofs.Region.Assembly
import BlockCyclic.Proofs.Transfer.Buffer

/-!
# Members of a group on a grid

The members of a group lie on a grid row by row, so that a member is told apart by its
position. Its part of a packed matrix is its region, and placing the blocks of all
members in any matrix of the right shape assembles them.
-/

namespace BlockCyclic

variable {n : Nat} {alpha beta : Type}

/-- The members of a group lie row by row on a grid of the given shape. -/
structure Communicator.LiesOn (c : Communicator n) (g : Group n) (rows cols : Nat) :
    Prop where
  nodup : g.Nodup
  members : forall r, r ∈ g -> c r = some g
  length : g.length = rows * cols
  rows_pos : 0 < rows
  cols_pos : 0 < cols

/-!
# Members and grid positions
-/

namespace Distribution

def memberRegion (d : Distribution) (k : Nat) : Region :=
  d.region ((k : Int).fdiv d.colAxis.procs) ((k : Int).fmod d.colAxis.procs)

structure OnGrid (d : Distribution) (rows cols : Nat) : Prop where
  positive : d.Positive
  rowProcs : d.rowAxis.procs = rows
  colProcs : d.colAxis.procs = cols

theorem atOrigin_onGrid {shape blocks : Int × Int} {rows cols : Nat}
    (hrowBlock : 0 < blocks.1) (hcolBlock : 0 < blocks.2)
    (hrows : 0 < rows) (hcols : 0 < cols) :
    (atOrigin shape blocks (rows, cols)).OnGrid rows cols :=
  ⟨atOrigin_positive hrowBlock hcolBlock (Int.natCast_pos.mpr hrows)
    (Int.natCast_pos.mpr hcols), rfl, rfl⟩

def memberAt (d : Distribution) (prow pcol : Int) : Nat :=
  (prow * d.colAxis.procs + pcol).toNat

section

variable {d : Distribution} {rows cols : Nat} (hd : d.OnGrid rows cols)

include hd

theorem position_of_member {k : Nat} (hk : k < rows * cols) :
    exists prow pcol : Int,
      (0 ≤ prow ∧ prow < d.rowAxis.procs) ∧ (0 ≤ pcol ∧ pcol < d.colAxis.procs) ∧
        (k : Int).fdiv d.colAxis.procs = prow ∧ (k : Int).fmod d.colAxis.procs = pcol ∧
        d.memberAt prow pcol = k := by
  have hcolsPos : 0 < cols := Nat.pos_of_ne_zero (by
    intro h
    rw [h, Nat.mul_zero] at hk
    cases hk)
  have hdiv : k / cols < rows := Nat.div_lt_of_lt_mul (by rwa [Nat.mul_comm] at hk)
  have hmod : k % cols < cols := Nat.mod_lt k hcolsPos
  have hsplit : k / cols * cols + k % cols = k := Nat.div_add_mod' k cols
  refine ⟨(k / cols : Nat), (k % cols : Nat), ?_, ?_, ?_, ?_, ?_⟩
  · rw [hd.rowProcs]
    exact ⟨Int.natCast_nonneg _, Int.ofNat_lt.mpr hdiv⟩
  · rw [hd.colProcs]
    exact ⟨Int.natCast_nonneg _, Int.ofNat_lt.mpr hmod⟩
  · rw [hd.colProcs, Int.fdiv_eq_ediv_of_nonneg _ (Int.natCast_nonneg cols),
      Int.natCast_ediv]
  · rw [hd.colProcs, Int.fmod_eq_emod_of_nonneg _ (Int.natCast_nonneg cols),
      Int.natCast_emod]
  · unfold memberAt
    rw [hd.colProcs]
    have hcast : ((k / cols : Nat) : Int) * cols + (k % cols : Nat) = (k : Int) := by
      exact_mod_cast hsplit
    rw [hcast]
    exact Int.toNat_natCast k

theorem memberAt_lt {prow pcol : Int} (hrow : 0 ≤ prow) (hrowLt : prow < d.rowAxis.procs)
    (hcol : 0 ≤ pcol) (hcolLt : pcol < d.colAxis.procs) :
    d.memberAt prow pcol < rows * cols ∧
      (d.memberAt prow pcol : Int).fdiv d.colAxis.procs = prow ∧
      (d.memberAt prow pcol : Int).fmod d.colAxis.procs = pcol := by
  rw [hd.rowProcs] at hrowLt
  rw [hd.colProcs] at hcolLt
  have hnonneg : 0 ≤ prow * (cols : Int) + pcol :=
    Int.add_nonneg (Int.mul_nonneg hrow (Int.natCast_nonneg cols)) hcol
  have hmember : (d.memberAt prow pcol : Int) = pcol + prow * (cols : Int) := by
    unfold memberAt
    rw [hd.colProcs, Int.toNat_of_nonneg hnonneg, Int.add_comm]
  have hcolsPos : (cols : Int) ≠ 0 := by omega
  refine ⟨?_, ?_, ?_⟩
  · have hstep : (prow + 1) * (cols : Int) ≤ rows * cols :=
      Int.mul_le_mul_of_nonneg_right (by omega) (Int.natCast_nonneg cols)
    rw [Int.add_mul, Int.one_mul] at hstep
    have hbound : (d.memberAt prow pcol : Int) < ((rows * cols : Nat) : Int) := by
      rw [hmember, Int.natCast_mul]
      omega
    exact_mod_cast hbound
  · rw [hd.colProcs, hmember, Int.fdiv_eq_ediv_of_nonneg _ (Int.natCast_nonneg cols),
      Int.add_mul_ediv_right _ _ hcolsPos, Int.ediv_eq_zero_of_lt hcol hcolLt,
      Int.zero_add]
  · rw [hd.colProcs, hmember, Int.fmod_eq_emod_of_nonneg _ (Int.natCast_nonneg cols),
      Int.add_mul_emod_self_right]
    exact Int.emod_eq_of_lt hcol hcolLt

end

/-!
# The table of a grid
-/

theorem length_regions_blockTable (d : Distribution) (members : Nat) :
    (d.blockTable members).regions.length = members := by
  simp [blockTable]

theorem getElem_regions_blockTable (d : Distribution) (members : Nat) {k : Nat}
    (hk : k < (d.blockTable members).regions.length) :
    (d.blockTable members).regions[k] = d.memberRegion k := by
  simp [blockTable, memberRegion]

theorem counts_blockTable [Zero alpha] (d : Distribution) (members : Nat)
    (x : Dense alpha) :
    (d.blockTable members).counts =
      ((d.blockTable members).regions.map fun r => (x.restrict r).entries).map
        Array.size := by
  rw [List.map_map]
  apply List.map_congr_left
  intro r _
  exact (Dense.size_entries_restrict x r).symm

theorem part_pack [Zero alpha] [Zero beta] (d : Distribution) (members : Nat)
    (f : alpha -> beta) (x : Dense alpha) {k : Nat} (hk : k < members) :
    (d.blockTable members).part (((d.blockTable members).pack x).map f) k =
      ((x.restrict (d.memberRegion k)).map f).entries := by
  let pieces := ((d.blockTable members).regions.map fun r =>
    (x.restrict r).entries).map (Array.map f)
  have hcounts : (d.blockTable members).counts = pieces.map Array.size := by
    rw [counts_blockTable d members x, List.map_map, List.map_map, List.map_map]
    apply List.map_congr_left
    intro r _
    exact (Array.size_map).symm
  have hlength : k < pieces.length := by
    simp only [pieces, List.length_map, length_regions_blockTable]
    exact hk
  rw [BlockTable.pack_eq_joined, map_joined,
    BlockTable.part_joined _ pieces rfl hcounts hlength]
  simp only [pieces, List.getElem_map, getElem_regions_blockTable]
  rfl

/-!
# Gathered blocks
-/

def assembleMembers [Zero alpha] (d : Distribution) (blocks : Nat -> Dense alpha) :
    Dense alpha :=
  d.assemble fun prow pcol => blocks (d.memberAt prow pcol)

def MemberShape (d : Distribution) (k : Nat) (block : Dense alpha) : Prop :=
  d.BlockShape ((k : Int).fdiv d.colAxis.procs) ((k : Int).fmod d.colAxis.procs) block

section

variable [Zero alpha] {d : Distribution} {rows cols : Nat} (hd : d.OnGrid rows cols)

include hd

theorem restrict_assembleMembers {blocks : Nat -> Dense alpha} {k : Nat}
    (hk : k < rows * cols) (hshape : d.MemberShape k (blocks k)) :
    (d.assembleMembers blocks).restrict (d.memberRegion k) = blocks k := by
  rcases position_of_member hd hk with
    ⟨prow, pcol, hrow, hcol, hdiv, hmod, hmember⟩
  unfold MemberShape at hshape
  unfold memberRegion assembleMembers
  rw [hdiv, hmod] at hshape ⊢
  rw [restrict_assemble hd.positive _ hrow.1 hrow.2 hcol.1 hcol.2]
  · rw [hmember]
  · rw [hmember]
    exact hshape

theorem assembleMembers_restrict {x : Dense alpha} {blocks : Nat -> Dense alpha}
    (hrows : x.rows = d.rows.toNat) (hcols : x.cols = d.cols.toNat)
    (hblocks : forall k, k < rows * cols -> blocks k = x.restrict (d.memberRegion k)) :
    d.assembleMembers blocks = x := by
  have hregions : d.assembleMembers blocks =
      d.assemble fun prow pcol => x.restrict (d.region prow pcol) := by
    apply assemble_congr hd.positive
    intro prow pcol hrow hrowLt hcol hcolLt
    have hmember := memberAt_lt hd hrow hrowLt hcol hcolLt
    rw [hblocks _ hmember.1]
    unfold memberRegion
    rw [hmember.2.1, hmember.2.2]
  rw [hregions]
  exact assemble_restrict hd.positive x hrows hcols

theorem owner_of_memberPlace {i j k a b : Nat} (hi : (i : Int) < d.rows)
    (hj : (j : Int) < d.cols) (hk : k < rows * cols)
    (hplace : (d.memberRegion k).place? i j = some (a, b)) :
    k = d.memberAt (d.rowAxis.owner i) (d.colAxis.owner j) ∧ (a, b) = d.slots i j := by
  rcases position_of_member hd hk with
    ⟨prow, pcol, hrow, hcol, hdiv, hmod, hmember⟩
  unfold memberRegion at hplace
  rw [hdiv, hmod] at hplace
  have howns := owner_of_place? hd.positive hrow.1 hrow.2 hcol.1 hcol.2
    (by rw [hplace]; rfl)
  have hself := place?_regionOf hd.positive hi hj
  unfold regionOf at hself
  rw [howns.1, howns.2, hplace] at hself
  rw [howns.1, howns.2, hmember]
  exact ⟨rfl, Option.some.inj hself⟩

theorem memberRegion_owner (i j : Nat) :
    d.memberRegion (d.memberAt (d.rowAxis.owner i) (d.colAxis.owner j)) =
      d.regionOf i j := by
  have howner := memberAt_lt hd
    (Axis.owner_nonneg hd.positive.rowAxis i) (Axis.owner_lt hd.positive.rowAxis i)
    (Axis.owner_nonneg hd.positive.colAxis j) (Axis.owner_lt hd.positive.colAxis j)
  unfold memberRegion regionOf
  rw [howner.2.1, howner.2.2]

/-- A member that has a place for an entry of the assembled matrix holds it there. -/
theorem getElem?_of_memberPlace {blocks : Nat -> Dense alpha} {i j k a b : Nat}
    (hi : (i : Int) < d.rows) (hj : (j : Int) < d.cols) (hk : k < rows * cols)
    (hshape : d.MemberShape k (blocks k))
    (hplace : (d.memberRegion k).place? i j = some (a, b)) :
    (blocks k).entries[a + b * (d.memberRegion k).rows.size]? =
      some ((d.assembleMembers blocks).get i j) := by
  rcases owner_of_memberPlace hd hi hj hk hplace with ⟨hmember, hslots⟩
  have hentry := get_restrict_regionOf hd.positive (d.assembleMembers blocks) hi hj
  rw [← memberRegion_owner hd i j, ← hmember, ← hslots,
    restrict_assembleMembers hd hk hshape] at hentry
  have hrows : (d.memberRegion k).rows.size = (blocks k).rows := by
    rw [hshape.1]
    exact size_rows_region d _ _
  have hcols : (d.memberRegion k).cols.size = (blocks k).cols := by
    rw [hshape.2]
    exact size_cols_region d _ _
  have hinside := Region.lt_of_place? hplace
  rw [hrows, hcols] at hinside
  rw [hrows, Dense.getElem?_entries _ hinside.1 hinside.2, hentry]

/-
An entry lies in the region of its owner and in no other one, so that the order in which
the regions are placed does not matter.
-/
theorem placeAll_members (target : Dense alpha) (blocks : Nat -> Dense alpha)
    (hrows : target.rows = d.rows.toNat) (hcols : target.cols = d.cols.toNat)
    (hshape : forall k, k < rows * cols -> d.MemberShape k (blocks k)) :
    target.placeAll ((List.range (rows * cols)).map fun k =>
        (d.memberRegion k, (blocks k).entries)) =
      d.assembleMembers blocks := by
  have hsame : (target.placeAll ((List.range (rows * cols)).map fun k =>
      (d.memberRegion k, (blocks k).entries))).rows =
        (d.assembleMembers blocks).rows := by
    rw [Dense.rows_placeAll, hrows]
    rfl
  apply Dense.ext_get hsame
  · rw [Dense.cols_placeAll, hcols]
    rfl
  · intro i j hi hj
    rw [Dense.rows_placeAll] at hi
    rw [Dense.cols_placeAll] at hj
    have hiRow : (i : Int) < d.rows := by omega
    have hjCol : (j : Int) < d.cols := by omega
    have howner := memberAt_lt hd
      (Axis.owner_nonneg hd.positive.rowAxis i) (Axis.owner_lt hd.positive.rowAxis i)
      (Axis.owner_nonneg hd.positive.colAxis j) (Axis.owner_lt hd.positive.colAxis j)
    have hregion := memberRegion_owner hd i j
    apply Dense.get_placeAll hi hj
    · apply Or.inr
      refine ⟨_, List.mem_map.mpr ⟨_, List.mem_range.mpr howner.1, rfl⟩, ?_⟩
      rw [hregion, place?_regionOf hd.positive hiRow hjCol]
      rfl
    · intro p hp a b hplace
      rcases List.mem_map.mp hp with ⟨k, hk, rfl⟩
      have hkLt := List.mem_range.mp hk
      exact getElem?_of_memberPlace hd hiRow hjCol hkLt (hshape k hkLt) hplace

end

end Distribution
end BlockCyclic
