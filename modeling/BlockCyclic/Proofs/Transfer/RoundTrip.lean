import BlockCyclic.Grid.Collective
import BlockCyclic.Proofs.Transfer.Members
import Mathlib.Data.List.Basic

/-!
# Scattering and gathering are inverse

What a member receives of a scattered matrix is its region, and what is gathered is the
matrix assembled from the blocks of all members, on one of them only. Both statements
leave open what any memory held before, so that nothing of it can survive a transfer.
-/

namespace BlockCyclic

variable {n : Nat} {alpha beta : Type}

def Group.block [Zero alpha] (g : Group n) (locals : PerProcess n (Dense alpha))
    (k : Nat) : Dense alpha :=
  match g[k]? with
  | some r => locals.get r
  | none => Dense.zeros 0 0

instance Distribution.decidableMemberShape (d : Distribution) (k : Nat)
    (block : Dense alpha) : Decidable (d.MemberShape k block) :=
  inferInstanceAs (Decidable (_ ∧ _))

theorem Group.block_eq [Zero alpha] (g : Group n) (locals : PerProcess n (Dense alpha))
    {k : Nat} (hk : k < g.length) :
    g.block locals k = locals.get g[k] := by
  unfold Group.block
  rw [List.getElem?_eq_getElem hk]

/-- The members of a group hold blocks of the shapes that a distribution gives them. -/
def Distribution.Fits (d : Distribution) (g : Group n)
    (locals : PerProcess n (Dense alpha)) : Prop :=
  forall k, (hk : k < g.length) -> d.MemberShape k (locals.get g[k])

instance Distribution.decidableFits (d : Distribution) (g : Group n)
    (locals : PerProcess n (Dense alpha)) : Decidable (d.Fits g locals) :=
  inferInstanceAs (Decidable (forall k, (_ : k < g.length) -> _))

/-!
# The table read by members
-/

namespace Distribution

variable [Zero alpha] {d : Distribution} {g : Group n}

omit [Zero alpha] in
theorem counts_of_fits {locals : PerProcess n (Dense alpha)} (hfits : d.Fits g locals) :
    (d.blockTable g.length).counts =
      (g.map fun r => (locals.get r).entries).map Array.size := by
  apply List.ext_getElem
  · simp [blockTable]
  · intro k hk hmember
    simp only [List.length_map] at hmember
    have hshape := hfits k hmember
    simp only [List.getElem_map, (locals.get g[k]).size_entries, hshape.1, hshape.2]
    rw [← size_rows_region, ← size_cols_region]
    simp [blockTable, Region.count]

theorem regions_zipIdx (members : Nat) :
    (d.blockTable members).regions.zipIdx =
      (List.range members).map fun k => (d.memberRegion k, k) := by
  apply List.ext_getElem
  · simp [blockTable]
  · intro k hk hmember
    simp [blockTable, memberRegion]

/-- Blocks that are collected in a buffer and placed in a matrix assemble it. -/
theorem unpack_collect {rows cols : Nat} (hd : d.OnGrid rows cols)
    (hlength : g.length = rows * cols) {locals : PerProcess n (Dense alpha)}
    (hfits : d.Fits g locals) (buffered : Nat -> alpha) {target : Dense alpha}
    (hrows : target.rows = d.rows.toNat) (hcols : target.cols = d.cols.toNat) :
    (d.blockTable g.length).unpack target
        ((d.blockTable g.length).collect buffered
          (g.map fun r => (locals.get r).entries)) =
      d.assembleMembers (g.block locals) := by
  have hcounts := counts_of_fits hfits
  unfold BlockTable.unpack
  rw [BlockTable.collect_eq_joined _ _ _ rfl hcounts, regions_zipIdx, List.foldl_map]
  have hpieces : forall x : Dense alpha,
      (List.range g.length).foldl (fun x k =>
          x.place (d.memberRegion k)
            ((d.blockTable g.length).part
              (joined (g.map fun r => (locals.get r).entries)) k)) x =
        x.placeAll ((List.range (rows * cols)).map fun k =>
          (d.memberRegion k, (g.block locals k).entries)) := by
    intro x
    unfold Dense.placeAll
    rw [List.foldl_map, ← hlength]
    apply List.foldl_ext
    intro y k hk
    have hkLt := List.mem_range.mp hk
    rw [BlockTable.part_joined _ _ rfl hcounts (by rwa [List.length_map]),
      List.getElem_map, Group.block_eq g locals hkLt]
  rw [hpieces]
  apply placeAll_members hd target (g.block locals) hrows hcols
  intro k hk
  rw [Group.block_eq g locals (by omega)]
  exact hfits k (by omega)

end Distribution

/-!
# What a member receives, and what is gathered
-/

namespace Communicator

variable [Zero alpha] [Zero beta] {c : Communicator n} {g : Group n} {rows cols : Nat}

theorem get_scatterFrom (hg : c.LiesOn g rows cols)
    (unwritten : Fin n -> Nat -> alpha) (enter : beta -> alpha)
    {source : Nat} (hsource : source < g.length) {blocks : Fin n -> Int × Int}
    {x : PerProcess n (Option (Dense beta))} {whole : Dense beta}
    (hx : x.get g[source] = some whole) {d : Distribution}
    (hlayout : Distribution.atOrigin (whole.rows, whole.cols) (blocks g[source])
      (rows, cols) = d)
    {locals : PerProcess n (Dense alpha)} {k : Nat} (hk : k < g.length)
    (hshape : d.MemberShape k (locals.get g[k])) :
    (c.scatterFrom unwritten enter (rows, cols) source blocks x locals).get g[k] =
      (whole.restrict (d.memberRegion k)).map enter := by
  have hmember : c g[k] = some g := hg.members g[k] (List.getElem_mem hk)
  have hnumber : g.idxOf g[k] = k := List.Nodup.idxOf_getElem hg.nodup k hk
  unfold scatterFrom
  rw [PerProcess.get_ofFn]
  simp only [hmember, List.getElem?_eq_getElem hsource, hx, hnumber, hlayout]
  rw [Distribution.part_pack _ _ _ _ hk]
  apply Dense.refill_entries
  · rw [hshape.1]
    exact (Distribution.size_rows_region _ _ _).symm
  · rw [hshape.2]
    exact (Distribution.size_cols_region _ _ _).symm

omit [Zero beta] in
theorem get_gatherFrom (hg : c.LiesOn g rows cols) (buffered covered : Nat -> alpha)
    (target : Nat) (layout : Fin n -> Distribution) {r : Fin n} (hr : r ∈ g)
    (hd : (layout r).OnGrid rows cols) {locals : PerProcess n (Dense alpha)}
    (hfits : (layout r).Fits g locals) :
    (c.gatherFrom buffered covered target layout locals).get r =
      if g[target]? = some r then some ((layout r).assembleMembers (g.block locals))
      else none := by
  unfold gatherFrom
  rw [PerProcess.get_ofFn, hg.members r hr]
  simp only
  rw [Distribution.unpack_collect hd hg.length hfits]
  · rfl
  · rfl

/-!
# There and back again
-/

theorem fits_scatterFrom (hg : c.LiesOn g rows cols)
    (unwritten : Fin n -> Nat -> alpha) (enter : beta -> alpha)
    {source : Nat} (hsource : source < g.length) {blocks : Fin n -> Int × Int}
    {x : PerProcess n (Option (Dense beta))} {whole : Dense beta}
    (hx : x.get g[source] = some whole) {d : Distribution}
    (hlayout : Distribution.atOrigin (whole.rows, whole.cols) (blocks g[source])
      (rows, cols) = d)
    {locals : PerProcess n (Dense alpha)} (hfits : d.Fits g locals) :
    d.Fits g (c.scatterFrom unwritten enter (rows, cols) source blocks x locals) := by
  intro k hk
  rw [get_scatterFrom hg unwritten enter hsource hx hlayout hk (hfits k hk)]
  exact ⟨d.size_rows_region _ _, d.size_cols_region _ _⟩

theorem gatherFrom_scatterFrom (hg : c.LiesOn g rows cols)
    (unwritten : Fin n -> Nat -> alpha) (buffered covered : Nat -> alpha)
    (enter : beta -> alpha) {source : Nat} (hsource : source < g.length) (target : Nat)
    (blocks : Fin n -> Int × Int) {x : PerProcess n (Option (Dense beta))}
    {whole : Dense beta} (hx : x.get g[source] = some whole) {d : Distribution}
    (hlayout : Distribution.atOrigin (whole.rows, whole.cols) (blocks g[source])
      (rows, cols) = d)
    (hd : d.OnGrid rows cols) {locals : PerProcess n (Dense alpha)}
    (hfits : d.Fits g locals) {r : Fin n} (hr : r ∈ g) :
    (c.gatherFrom buffered covered target (fun _ => d)
        (c.scatterFrom unwritten enter (rows, cols) source blocks x locals)).get r =
      if g[target]? = some r then some (whole.map enter) else none := by
  have hrows : whole.rows = d.rows.toNat := by rw [← hlayout]; rfl
  have hcols : whole.cols = d.cols.toNat := by rw [← hlayout]; rfl
  have hscattered := fits_scatterFrom hg unwritten enter hsource hx hlayout hfits
  rw [get_gatherFrom hg buffered covered target (fun _ => d) hr hd hscattered]
  have hwhole : d.assembleMembers (g.block
      (c.scatterFrom unwritten enter (rows, cols) source blocks x locals)) =
        whole.map enter := by
    apply Distribution.assembleMembers_restrict hd
    · exact hrows
    · exact hcols
    · intro k hk
      have hkLt : k < g.length := by rwa [hg.length]
      rw [Group.block_eq g _ hkLt,
        get_scatterFrom hg unwritten enter hsource hx hlayout hkLt (hfits k hkLt)]
      exact Distribution.map_restrict_region hd.positive enter whole hrows hcols _ _
  rw [hwhole]

omit [Zero beta] in
theorem scatterFrom_gatherFrom (hg : c.LiesOn g rows cols)
    (unwritten : Fin n -> Nat -> alpha) (buffered covered : Nat -> alpha)
    {source target : Nat} (hsource : source < g.length) (htarget : target < g.length)
    (blocks : Fin n -> Int × Int) {d : Distribution} {m k : Nat}
    (hlayout : Distribution.atOrigin (m, k) (blocks g[source]) (rows, cols) = d)
    (hd : d.OnGrid rows cols) {locals before : PerProcess n (Dense alpha)}
    (hfits : d.Fits g locals) (hbefore : d.Fits g before)
    {x : PerProcess n (Option (Dense alpha))}
    (hx : x.get g[source] =
      (c.gatherFrom buffered covered target (fun _ => d) locals).get g[target])
    {r : Fin n} (hr : r ∈ g) :
    (c.scatterFrom unwritten id (rows, cols) source blocks x before).get r =
      locals.get r := by
  rw [get_gatherFrom hg buffered covered target (fun _ => d) (List.getElem_mem htarget) hd
      hfits,
    if_pos (List.getElem?_eq_getElem htarget)] at hx
  have hrows : (d.assembleMembers (g.block locals)).rows = m := by
    rw [← hlayout]
    exact Int.toNat_natCast m
  have hcols : (d.assembleMembers (g.block locals)).cols = k := by
    rw [← hlayout]
    exact Int.toNat_natCast k
  have hwhole : Distribution.atOrigin ((d.assembleMembers (g.block locals)).rows,
      (d.assembleMembers (g.block locals)).cols) (blocks g[source]) (rows, cols) = d := by
    rw [hrows, hcols, hlayout]
  rcases List.getElem_of_mem hr with ⟨member, hmember, rfl⟩
  rw [get_scatterFrom hg unwritten id hsource hx hwhole hmember (hbefore member hmember),
    Dense.map_id]
  have hshape := hfits member hmember
  rw [← Group.block_eq g locals hmember] at hshape ⊢
  exact Distribution.restrict_assembleMembers hd (by rwa [← hg.length]) hshape

/-
Neither direction mentions what the receivers' memory, the buffer or the gathered matrix
held before, so that none of it can be part of a result.
-/
theorem scatter_gather_inverse (hg : c.LiesOn g rows cols) {m k : Nat} {mb nb : Int}
    (hmb : 0 < mb) (hnb : 0 < nb) {d : Distribution}
    (hlayout : Distribution.atOrigin (m, k) (mb, nb) (rows, cols) = d)
    {source target : Nat} (hsource : source < g.length) (htarget : target < g.length)
    (enter : beta -> alpha) (unwritten : Fin n -> Nat -> alpha)
    (buffered covered : Nat -> alpha) :
    (forall (x : PerProcess n (Option (Dense beta))) (whole : Dense beta)
      (locals : PerProcess n (Dense alpha)),
        whole.rows = m -> whole.cols = k -> x.get g[source] = some whole ->
        d.Fits g locals -> forall r, r ∈ g ->
          (c.gatherFrom buffered covered target (fun _ => d)
            (c.scatterFrom unwritten enter (rows, cols) source (fun _ => (mb, nb)) x
              locals)).get r =
            if r = g[target] then some (whole.map enter) else none) ∧
    (forall (x : PerProcess n (Option (Dense alpha)))
      (locals before : PerProcess n (Dense alpha)),
        d.Fits g locals -> d.Fits g before ->
        x.get g[source] =
          (c.gatherFrom buffered covered target (fun _ => d) locals).get g[target] ->
        forall r, r ∈ g ->
          (c.scatterFrom unwritten id (rows, cols) source (fun _ => (mb, nb)) x
            before).get r = locals.get r) := by
  have hd : d.OnGrid rows cols := by
    rw [← hlayout]
    exact Distribution.atOrigin_onGrid hmb hnb hg.rows_pos hg.cols_pos
  constructor
  · intro x whole locals hrows hcols hx hfits r hr
    have hsame : Distribution.atOrigin (whole.rows, whole.cols) (mb, nb) (rows, cols) =
        d := by
      rw [hrows, hcols, hlayout]
    have htrip := gatherFrom_scatterFrom hg unwritten buffered covered enter hsource
      target (fun _ => (mb, nb)) hx hsame hd hfits hr
    rw [htrip, List.getElem?_eq_getElem htarget]
    simp only [Option.some.injEq, eq_comm]
  · intro x locals before hfits hbefore hx r hr
    exact scatterFrom_gatherFrom hg unwritten buffered covered hsource htarget
      (fun _ => (mb, nb)) hlayout hd hfits hbefore hx hr

/-- Six processes, a matrix of five rows and three columns, and four of them in use. -/
theorem scatter_gather_inverse_partial_blocks :
    let whole : Dense Nat := Dense.ofFn 5 3 fun i j => 10 * i + j
    let c : Communicator 6 := fun r => if r.val < 4 then some [0, 1, 2, 3] else none
    let d := Distribution.atOrigin (5, 3) (2, 1) ((2 : Nat), (2 : Nat))
    let held : PerProcess 6 (Option (Dense Nat)) := Vector.replicate 6 (some whole)
    let locals : PerProcess 6 (Dense Int) :=
      #v[Dense.zeros 3 2, Dense.zeros 3 1, Dense.zeros 2 2, Dense.zeros 2 1,
        Dense.zeros 0 0, Dense.zeros 0 0]
    (c.gatherFrom (fun _ => 7) (fun _ => 8) 3 (fun _ => d)
      (c.scatterFrom (fun _ _ => 9) Int.ofNat ((2 : Nat), (2 : Nat)) 1
        (fun _ => (2, 1)) held locals)).get 3 = some (whole.map Int.ofNat) := by
  intro whole c d held locals
  have hg : c.LiesOn [0, 1, 2, 3] 2 2 :=
    ⟨by decide, by decide, rfl, by decide, by decide⟩
  exact (scatter_gather_inverse hg (m := 5) (k := 3) (by decide) (by decide) rfl
    (by decide : 1 < 4) (by decide : 3 < 4) Int.ofNat (fun _ _ => 9) (fun _ => 7)
    (fun _ => 8)).1 held whole locals rfl rfl rfl (by decide) 3 (by decide)

end Communicator
end BlockCyclic
