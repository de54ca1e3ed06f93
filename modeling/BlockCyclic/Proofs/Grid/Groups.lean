import BlockCyclic.Dense
import BlockCyclic.Grid
import Mathlib.Data.List.Sort

/-!
# The groups of a grid

As long as a grid has not been released, every active process is in three groups: the one
of the whole grid, the one of its row and the one of its column. A group that is parted
keeps its order, since the keys of a grid grow along each part.
-/

namespace BlockCyclic

variable {n : Nat}

/-!
# Parting a group that is in order
-/

theorem Communicator.split_of_sorted {c : Communicator n} {colour : Fin n -> Option Nat}
    {key : Fin n -> Nat} {r : Fin n} {members : Group n} {k : Nat}
    (hc : c r = some members) (hcolour : colour r = some k)
    (hsorted : (members.filter fun s => colour s == some k).Pairwise
      fun s t => key s ≤ key t) :
    c.split colour key r = some (members.filter fun s => colour s == some k) := by
  unfold Communicator.split
  rw [hc, hcolour]
  simp only [Option.some.injEq]
  apply List.mergeSort_of_pairwise
  exact hsorted.imp fun h => decide_eq_true h

/-- Processes in ascending order are determined by which ones they are. -/
theorem Group.ext_of_sorted {members others : Group n}
    (hsorted : members.Pairwise (· < ·)) (hothers : others.Pairwise (· < ·))
    (h : forall s, s ∈ members ↔ s ∈ others) : members = others :=
  hsorted.eq_of_mem_iff hothers (fun s => h s)

namespace Grid

variable (g : Grid n)

/-!
# Active processes
-/

theorem activeCount_le : g.activeCount ≤ n :=
  g.fits

def processes : Group n :=
  (List.finRange g.activeCount).map (Fin.castLE g.activeCount_le)

theorem activeCount_pos : 0 < g.activeCount :=
  Nat.mul_pos g.rows_pos g.cols_pos

def first : Fin n :=
  ⟨0, Nat.lt_of_lt_of_le g.activeCount_pos g.activeCount_le⟩

theorem active_iff (r : Fin n) : g.active r = true ↔ r.val < g.activeCount := by
  unfold active
  exact decide_eq_true_iff

@[simp] theorem length_processes : g.processes.length = g.activeCount := by
  unfold processes
  rw [List.length_map, List.length_finRange]

theorem val_getElem_processes {k : Nat} (hk : k < g.processes.length) :
    (g.processes[k]).val = k := by
  simp [processes]

theorem mem_processes {r : Fin n} : r ∈ g.processes ↔ g.active r = true := by
  rw [active_iff]
  constructor
  · intro h
    rcases List.mem_map.mp h with ⟨k, _, rfl⟩
    exact k.isLt
  · intro h
    exact List.mem_map.mpr ⟨⟨r.val, h⟩, List.mem_finRange _, rfl⟩

theorem processes_sorted : g.processes.Pairwise (· < ·) := by
  apply List.Pairwise.map _ _ (List.pairwise_lt_finRange g.activeCount)
  intro s t h
  exact h

theorem processes_nodup : g.processes.Nodup :=
  g.processes_sorted.imp fun h => Fin.ne_of_lt h

theorem getElem?_processes {k : Nat} {r : Fin n} (hk : k < g.activeCount) :
    g.processes[k]? = some r ↔ r.val = k := by
  have hlength : k < g.processes.length := by rwa [length_processes]
  rw [List.getElem?_eq_getElem hlength, Option.some.injEq, Fin.ext_iff,
    val_getElem_processes]
  exact eq_comm

theorem eq_first {r : Fin n} : r = g.first ↔ r.val = 0 :=
  Fin.ext_iff

theorem active_first : g.active g.first = true := by
  rw [active_iff]
  exact g.activeCount_pos

/-!
# The group of the grid
-/

variable {g}

theorem gridComm_of_active (hopen : g.released = false) {r : Fin n}
    (hr : g.active r = true) :
    g.gridComm r = some g.processes := by
  have hmembers : ((List.finRange n).filter fun s =>
      (if g.active s then some 0 else none) == some 0) = g.processes := by
    apply Group.ext_of_sorted
    · exact (List.pairwise_lt_finRange n).filter _
    · exact g.processes_sorted
    · intro s
      rw [List.mem_filter, mem_processes]
      cases g.active s <;> simp
  unfold gridComm unlessReleased
  rw [hopen, if_neg Bool.false_ne_true, ← hmembers]
  apply Communicator.split_of_sorted
  · rfl
  · rw [hr]
    rfl
  · rw [hmembers]
    exact g.processes_sorted.imp fun h => Nat.le_of_lt h

theorem gridComm_of_inactive {r : Fin n} (hr : g.active r = false) :
    g.gridComm r = none := by
  unfold gridComm unlessReleased
  cases g.released with
  | true => rfl
  | false => simp [Communicator.split, Communicator.world, hr]

/-!
# The groups of rows and columns
-/

theorem row_lt {r : Fin n} (hr : g.active r = true) : r.val / g.cols < g.rows := by
  have hlt := (g.active_iff r).mp hr
  unfold activeCount at hlt
  rw [Nat.mul_comm] at hlt
  exact Nat.div_lt_of_lt_mul hlt

theorem col_lt (r : Fin n) : r.val % g.cols < g.cols :=
  Nat.mod_lt r.val g.cols_pos

variable (g)

def processAt (i : Fin g.rows) (j : Fin g.cols) : Fin n :=
  ⟨j.val + i.val * g.cols, by
    have hplace := Dense.place_lt j.isLt i.isLt
    rw [Nat.mul_comm g.cols g.rows] at hplace
    exact Nat.lt_of_lt_of_le hplace g.fits⟩

@[simp] theorem processAt_div (i : Fin g.rows) (j : Fin g.cols) :
    (g.processAt i j).val / g.cols = i.val := by
  unfold processAt
  rw [Nat.add_mul_div_right _ _ g.cols_pos, Nat.div_eq_of_lt j.isLt, Nat.zero_add]

@[simp] theorem processAt_mod (i : Fin g.rows) (j : Fin g.cols) :
    (g.processAt i j).val % g.cols = j.val := by
  unfold processAt
  rw [Nat.add_mul_mod_self_right, Nat.mod_eq_of_lt j.isLt]

theorem active_processAt (i : Fin g.rows) (j : Fin g.cols) :
    g.active (g.processAt i j) = true := by
  rw [active_iff]
  unfold activeCount
  rw [Nat.mul_comm]
  exact Dense.place_lt j.isLt i.isLt

theorem eq_processAt {r : Fin n} {i : Fin g.rows} {j : Fin g.cols}
    (hrow : r.val / g.cols = i.val) (hcol : r.val % g.cols = j.val) :
    r = g.processAt i j := by
  have hsplit : j.val + i.val * g.cols = r.val := by
    rw [← hrow, ← hcol, Nat.add_comm, Nat.div_add_mod']
  exact Fin.ext hsplit.symm

theorem processAt_self {r : Fin n} (hr : g.active r = true) :
    g.processAt ⟨r.val / g.cols, row_lt hr⟩ ⟨r.val % g.cols, col_lt r⟩ = r :=
  (g.eq_processAt rfl rfl).symm

/-- Coordinates that are not negative are those of one process. -/
theorem coords_eq_iff {r : Fin n} {i : Fin g.rows} {j : Fin g.cols} :
    g.coords r = ((i.val : Int), (j.val : Int)) ↔ r = g.processAt i j := by
  constructor
  · intro h
    cases hr : g.active r with
    | false =>
        unfold coords at h
        rw [hr] at h
        have hrow : (-1 : Int) = i.val := congrArg Prod.fst h
        omega
    | true =>
        unfold coords at h
        rw [if_pos hr, Prod.mk.injEq, Int.natCast_inj, Int.natCast_inj] at h
        exact g.eq_processAt h.1 h.2
  · rintro rfl
    unfold coords
    rw [if_pos (g.active_processAt i j), processAt_div, processAt_mod]

def rowGroup (i : Fin g.rows) : Group n :=
  (List.finRange g.cols).map fun j => g.processAt i j

def colGroup (j : Fin g.cols) : Group n :=
  (List.finRange g.rows).map fun i => g.processAt i j

theorem mem_rowGroup {i : Fin g.rows} {r : Fin n} :
    r ∈ g.rowGroup i ↔ g.active r = true ∧ r.val / g.cols = i.val := by
  unfold rowGroup
  rw [List.mem_map]
  constructor
  · rintro ⟨j, _, rfl⟩
    exact ⟨g.active_processAt i j, g.processAt_div i j⟩
  · rintro ⟨_, hrow⟩
    exact ⟨⟨r.val % g.cols, col_lt r⟩, List.mem_finRange _,
      (g.eq_processAt hrow rfl).symm⟩

theorem mem_colGroup {j : Fin g.cols} {r : Fin n} :
    r ∈ g.colGroup j ↔ g.active r = true ∧ r.val % g.cols = j.val := by
  unfold colGroup
  rw [List.mem_map]
  constructor
  · rintro ⟨i, _, rfl⟩
    exact ⟨g.active_processAt i j, g.processAt_mod i j⟩
  · rintro ⟨hr, hcol⟩
    exact ⟨⟨r.val / g.cols, row_lt hr⟩, List.mem_finRange _,
      (g.eq_processAt rfl hcol).symm⟩

theorem rowGroup_sorted (i : Fin g.rows) : (g.rowGroup i).Pairwise (· < ·) := by
  apply List.Pairwise.map _ _ (List.pairwise_lt_finRange g.cols)
  intro j k h
  exact Nat.add_lt_add_right h _

theorem colGroup_sorted (j : Fin g.cols) : (g.colGroup j).Pairwise (· < ·) := by
  apply List.Pairwise.map _ _ (List.pairwise_lt_finRange g.rows)
  intro i k h
  exact Nat.add_lt_add_left (Nat.mul_lt_mul_of_pos_right h g.cols_pos) _

variable {g}

theorem rowComm_of_active (hopen : g.released = false) {r : Fin n}
    (hr : g.active r = true) :
    g.rowComm r = some (g.rowGroup ⟨r.val / g.cols, row_lt hr⟩) := by
  have hmembers : (g.processes.filter fun s =>
      some (s.val / g.cols) == some (r.val / g.cols)) =
        g.rowGroup ⟨r.val / g.cols, row_lt hr⟩ := by
    apply Group.ext_of_sorted
    · exact g.processes_sorted.filter _
    · exact g.rowGroup_sorted _
    · intro s
      rw [List.mem_filter, mem_processes, mem_rowGroup, beq_iff_eq, Option.some.injEq]
  unfold rowComm
  rw [← hmembers]
  apply Communicator.split_of_sorted (gridComm_of_active hopen hr) rfl
  rw [hmembers]
  apply List.Pairwise.map _ _ (List.pairwise_lt_finRange g.cols)
  intro j k h
  rw [processAt_mod, processAt_mod]
  exact Nat.le_of_lt h

theorem colComm_of_active (hopen : g.released = false) {r : Fin n}
    (hr : g.active r = true) :
    g.colComm r = some (g.colGroup ⟨r.val % g.cols, col_lt r⟩) := by
  have hmembers : (g.processes.filter fun s =>
      some (s.val % g.cols) == some (r.val % g.cols)) =
        g.colGroup ⟨r.val % g.cols, col_lt r⟩ := by
    apply Group.ext_of_sorted
    · exact g.processes_sorted.filter _
    · exact g.colGroup_sorted _
    · intro s
      rw [List.mem_filter, mem_processes, mem_colGroup, beq_iff_eq, Option.some.injEq]
  unfold colComm
  rw [← hmembers]
  apply Communicator.split_of_sorted (gridComm_of_active hopen hr) rfl
  rw [hmembers]
  apply List.Pairwise.map _ _ (List.pairwise_lt_finRange g.rows)
  intro i k h
  rw [processAt_div, processAt_div]
  exact Nat.le_of_lt h

end Grid
end BlockCyclic
