import BlockCyclic.Proofs.Grid.Messages
import BlockCyclic.Proofs.Transfer.RoundTrip

/-!
# Matrices in pieces on a grid

The processes of a grid hold a matrix in pieces, one for each grid position. Cutting a
matrix into pieces and assembling it from them undo each other. The first process scatters
by cutting and gathers by assembling.
-/

namespace BlockCyclic

variable {n : Nat} {alpha : Type}

namespace Grid

/-!
# Positions
-/

section

variable {g : Grid n}

theorem gridComm_liesOn (hopen : g.released = false) :
    g.gridComm.LiesOn g.processes g.rows g.cols where
  nodup := g.processes_nodup
  members := fun _ hr => gridComm_of_active hopen (g.mem_processes.mp hr)
  length := g.length_processes
  rows_pos := g.rows_pos
  cols_pos := g.cols_pos

theorem coords_of_active {r : Fin n} (hr : g.active r = true) :
    g.coords r = ((r.val : Int).fdiv g.cols, (r.val : Int).fmod g.cols) := by
  unfold coords
  rw [if_pos hr, Int.fdiv_eq_ediv_of_nonneg _ (Int.natCast_nonneg g.cols),
    Int.fmod_eq_emod_of_nonneg _ (Int.natCast_nonneg g.cols)]
  rfl

end

/-!
# Cutting and assembling
-/

variable [Zero alpha]

def cut (d : Distribution) (x : Dense alpha) (r : Fin n) : Dense alpha :=
  x.restrict (d.memberRegion r.val)

def assemble (g : Grid n) (d : Distribution) (pieces : PerProcess n (Dense alpha)) :
    Dense alpha :=
  d.assembleMembers (g.processes.block pieces)

/-- Every process of the grid holds a piece of the shape that a distribution gives it. -/
def HoldsPieces (g : Grid n) (d : Distribution) (pieces : PerProcess n (Dense alpha)) :
    Prop :=
  forall r, g.active r = true -> d.MemberShape r.val (pieces.get r)

variable {g : Grid n} {d : Distribution} {pieces : PerProcess n (Dense alpha)}

theorem rows_assemble : (g.assemble d pieces).rows = d.rows.toNat :=
  rfl

theorem cols_assemble : (g.assemble d pieces).cols = d.cols.toNat :=
  rfl

theorem memberShape_cut (x : Dense alpha) (r : Fin n) :
    d.MemberShape r.val (cut d x r) :=
  d.blockShape_restrict _ _ x

theorem block_processes {r : Fin n} (hr : g.active r = true) :
    g.processes.block pieces r.val = pieces.get r := by
  have hlt : r.val < g.processes.length := by
    rw [length_processes]
    exact (g.active_iff r).mp hr
  rw [Group.block_eq _ _ hlt]
  congr 1
  exact Fin.ext (g.val_getElem_processes hlt)

omit [Zero alpha] in
theorem fits_of_holdsPieces (h : g.HoldsPieces d pieces) :
    d.Fits g.processes pieces := by
  intro k hk
  have hshape := h g.processes[k] (g.mem_processes.mp (List.getElem_mem hk))
  rw [g.val_getElem_processes hk] at hshape
  exact hshape

section

variable (hd : d.OnGrid g.rows g.cols)

include hd

theorem cut_assemble (h : g.HoldsPieces d pieces) {r : Fin n} (hr : g.active r = true) :
    cut d (g.assemble d pieces) r = pieces.get r := by
  have hlt : r.val < g.rows * g.cols := (g.active_iff r).mp hr
  have hshape := h r hr
  rw [← block_processes hr] at hshape ⊢
  exact Distribution.restrict_assembleMembers hd hlt hshape

theorem assemble_cut {x : Dense alpha} (hrows : x.rows = d.rows.toNat)
    (hcols : x.cols = d.cols.toNat)
    (h : forall r, g.active r = true -> pieces.get r = cut d x r) :
    g.assemble d pieces = x := by
  apply Distribution.assembleMembers_restrict hd hrows hcols
  intro k hk
  have hlt : k < g.processes.length := by
    rw [length_processes]
    exact hk
  rw [Group.block_eq _ _ hlt, h _ (g.mem_processes.mp (List.getElem_mem hlt))]
  unfold cut
  rw [g.val_getElem_processes hlt]

/-!
# The first process gathers and scatters
-/

theorem get_gather (hopen : g.released = false) {layout : Fin n -> Distribution}
    {r : Fin n} (hr : g.active r = true) (hlayout : layout r = d)
    (h : g.HoldsPieces d pieces) :
    (g.gridComm.gather 0 layout pieces).get r =
      if r = g.first then some (g.assemble d pieces) else none := by
  subst hlayout
  unfold Communicator.gather
  rw [Communicator.get_gatherFrom (gridComm_liesOn hopen) _ _ 0 layout
    (g.mem_processes.mpr hr) hd (fits_of_holdsPieces h), g.processes_first]
  by_cases hfirst : r = g.first
  · rw [if_pos hfirst, if_pos (congrArg some hfirst.symm)]
    rfl
  · rw [if_neg hfirst, if_neg (fun heq => hfirst (Option.some.inj heq).symm)]

omit hd in
theorem get_gather_of_other (hopen : g.released = false)
    {layout : Fin n -> Distribution} {r : Fin n} (hr : r ≠ g.first) :
    (g.gridComm.gather 0 layout pieces).get r = none := by
  unfold Communicator.gather Communicator.gatherFrom
  rw [PerProcess.get_ofFn]
  cases hactive : g.active r with
  | false => rw [gridComm_of_inactive hactive]
  | true =>
      rw [gridComm_of_active hopen hactive]
      simp only [g.processes_first]
      exact if_neg fun heq => hr (Option.some.inj heq).symm

omit hd in
theorem get_scatter (hopen : g.released = false) {blocks : Fin n -> Int × Int}
    {x : PerProcess n (Option (Dense alpha))} {whole : Dense alpha}
    (hx : x.get g.first = some whole)
    (hlayout : Distribution.atOrigin (whole.rows, whole.cols) (blocks g.first) g.shape =
      d)
    (h : g.HoldsPieces d pieces) {r : Fin n} (hr : g.active r = true) :
    (g.gridComm.scatter g.shape 0 blocks x pieces).get r = cut d whole r := by
  have hlt : r.val < g.processes.length := by
    rw [length_processes]
    exact (g.active_iff r).mp hr
  have hself : g.processes[r.val] = r := Fin.ext (g.val_getElem_processes hlt)
  have hzero : 0 < g.processes.length := by
    rw [length_processes]
    exact g.activeCount_pos
  have hroot : g.processes[0] = g.first := by
    have hfirst := g.processes_first
    rw [List.getElem?_eq_getElem hzero] at hfirst
    exact Option.some.inj hfirst
  have hpiece := Communicator.get_scatterFrom (gridComm_liesOn hopen)
    (fun r k => (pieces.get r).entries.getD k 0) id hzero (by rw [hroot]; exact hx)
    (by rw [hroot]; exact hlayout) hlt (fits_of_holdsPieces h r.val hlt)
  rw [hself, Dense.map_id] at hpiece
  exact hpiece

omit hd in
theorem get_scatter_of_inactive {blocks : Fin n -> Int × Int}
    {x : PerProcess n (Option (Dense alpha))} {r : Fin n} (hr : g.active r = false) :
    (g.gridComm.scatter g.shape 0 blocks x pieces).get r = pieces.get r := by
  unfold Communicator.scatter Communicator.scatterFrom
  rw [PerProcess.get_ofFn, gridComm_of_inactive hr]

end

end Grid
end BlockCyclic
