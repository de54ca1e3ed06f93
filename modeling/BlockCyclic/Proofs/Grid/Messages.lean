import BlockCyclic.Grid.Collective
import BlockCyclic.Kernel.Factor
import BlockCyclic.Proofs.Grid.Groups

/-!
# What messages leave on the processes

The first process of a grid is the first member of each group that it sends to. After a
message every receiver holds its value, and everyone else holds what it held before.
-/

namespace BlockCyclic

variable {n : Nat} {alpha : Type}

/-!
# Members of any group
-/

namespace Communicator

variable {c : Communicator n} {members : Group n} {root : Nat} {r s : Fin n}

theorem get_broadcast (hc : c r = some members) (hroot : members[root]? = some s)
    (values : PerProcess n alpha) :
    (c.broadcast root values).get r = values.get s := by
  unfold broadcast from?
  rw [PerProcess.get_ofFn, hc]
  simp only
  rw [hroot]
  rfl

theorem get_broadcast_of_none (hc : c r = none) (values : PerProcess n alpha) :
    (c.broadcast root values).get r = values.get r := by
  unfold broadcast from?
  rw [PerProcess.get_ofFn, hc]
  rfl

theorem get_broadcastBuffer (hc : c r = some members) (hroot : members[root]? = some s)
    (buffers : PerProcess n (Array alpha)) :
    (c.broadcastBuffer root buffers).get r =
      overwrite (buffers.get r) (buffers.get s) := by
  unfold broadcastBuffer from?
  rw [PerProcess.get_ofFn, hc]
  simp only
  rw [hroot]
  rfl

theorem get_broadcastBuffer_of_none (hc : c r = none)
    (buffers : PerProcess n (Array alpha)) :
    (c.broadcastBuffer root buffers).get r = buffers.get r := by
  unfold broadcastBuffer from?
  rw [PerProcess.get_ofFn, hc]

theorem overwrite_of_size_le {buffer source : Array alpha}
    (h : buffer.size ≤ source.size) : overwrite buffer source = source := by
  unfold overwrite
  rw [Array.extract_empty_of_stop_le_start h, Array.append_empty]

theorem size_overwrite (buffer source : Array alpha) :
    (overwrite buffer source).size = max source.size buffer.size := by
  unfold overwrite
  rw [Array.size_append, Array.size_extract, Nat.min_self]
  omega

theorem getElem?_overwrite (buffer source : Array alpha) (i : Nat) :
    (overwrite buffer source)[i]? = if i < source.size then source[i]? else buffer[i]? := by
  unfold overwrite
  rw [Array.getElem?_append]
  split
  next => rfl
  next hge =>
    have hplace : source.size + (i - source.size) = i := by omega
    rw [Array.getElem?_extract, hplace, Nat.min_self]
    split
    next => rfl
    next hout => exact (Array.getElem?_eq_none (by omega)).symm

theorem get_allreduce (hc : c r = some members) (op : alpha -> alpha -> alpha)
    (values : PerProcess n alpha) :
    (c.allreduce op values).get r = combine op values members := by
  unfold allreduce
  rw [PerProcess.get_ofFn, hc]
  rfl

theorem get_allreduce_of_none (hc : c r = none) (op : alpha -> alpha -> alpha)
    (values : PerProcess n alpha) :
    (c.allreduce op values).get r = none := by
  unfold allreduce
  rw [PerProcess.get_ofFn, hc]
  rfl

/-- What a group combines is determined by the values of its members, in their order. -/
theorem combine_eq_of_map_eq {m : Nat} (op : alpha -> alpha -> alpha)
    {values : PerProcess n alpha} {others : PerProcess m alpha}
    {members : Group n} {peers : Group m}
    (h : members.map (fun s => values.get s) = peers.map (fun s => others.get s)) :
    combine op values members = combine op others peers := by
  cases members with
  | nil =>
      cases peers with
      | nil => rfl
      | cons t rest => cases h
  | cons s tail =>
      cases peers with
      | nil => cases h
      | cons t rest =>
          simp only [List.map_cons, List.cons.injEq] at h
          unfold combine
          rw [Option.some.injEq, h.1]
          have hfold : forall (k : Nat) (xs : PerProcess k alpha) (g : Group k)
              (acc : alpha),
              g.foldl (fun acc t => op acc (xs.get t)) acc =
                (g.map fun s => xs.get s).foldl op acc := by
            intro k xs g acc
            rw [List.foldl_map]
          rw [hfold, hfold, h.2]

theorem exists_combine (op : alpha -> alpha -> alpha) (values : PerProcess n alpha)
    (hr : r ∈ members) : exists value, combine op values members = some value := by
  cases members with
  | nil => cases hr
  | cons s rest => exact ⟨_, rfl⟩

end Communicator

/-!
# All processes
-/

namespace Grid

variable {g : Grid n}

theorem get_world_broadcast (g : Grid n) (values : PerProcess n alpha) (r : Fin n) :
    (Communicator.world.broadcast 0 values).get r = values.get g.first := by
  apply Communicator.get_broadcast rfl
  have hpos : 0 < (List.finRange n).length := by
    rw [List.length_finRange]
    exact g.first.isLt
  rw [List.getElem?_eq_getElem hpos, List.getElem_finRange]
  rfl

/-!
# The processes of a grid
-/

theorem processes_first (g : Grid n) : g.processes[0]? = some g.first :=
  (g.getElem?_processes g.activeCount_pos).mpr rfl

theorem get_shareFromRoot (hopen : g.released = false) {r : Fin n}
    (hr : g.active r = true) (values : PerProcess n alpha) :
    (g.shareFromRoot values).get r = values.get g.first :=
  Communicator.get_broadcast (gridComm_of_active hopen hr) g.processes_first values

theorem foldl_min_least {m : Nat} (values : PerProcess m Int) (members : Group m)
    (start : Int) :
    let least := members.foldl (fun acc t => min acc (values.get t)) start
    least ≤ start ∧ (forall t, t ∈ members -> least ≤ values.get t) ∧
      (least = start ∨ exists t, t ∈ members ∧ values.get t = least) := by
  induction members generalizing start with
  | nil =>
      refine ⟨Int.le_refl start, ?_, Or.inl rfl⟩
      intro t ht
      cases ht
  | cons s rest ih =>
      rcases ih (min start (values.get s)) with ⟨hstart, hmembers, hattained⟩
      simp only [List.foldl_cons]
      refine ⟨Int.le_trans hstart (Int.min_le_left _ _), ?_, ?_⟩
      · intro t ht
        cases ht with
        | head => exact Int.le_trans hstart (Int.min_le_right _ _)
        | tail _ htail => exact hmembers t htail
      · rcases hattained with hmin | ⟨t, ht, hvalue⟩
        · rcases Int.le_total start (values.get s) with hle | hle
          · rw [Int.min_eq_left hle] at hmin ⊢
            exact Or.inl hmin
          · rw [Int.min_eq_right hle] at hmin ⊢
            exact Or.inr ⟨s, List.mem_cons_self, hmin.symm⟩
        · exact Or.inr ⟨t, List.mem_cons_of_mem s ht, hvalue⟩

theorem exists_agreed (hopen : g.released = false) (statuses : PerProcess n Int) :
    exists status : Int,
      (forall r, g.active r = true -> (g.agree statuses).get r = some status) ∧
      (forall r, g.active r = true -> status ≤ statuses.get r) ∧
      (exists r, g.active r = true ∧ statuses.get r = status) := by
  have hcombined : exists status : Int,
      Communicator.combine min statuses g.processes = some status ∧
        (forall r, r ∈ g.processes -> status ≤ statuses.get r) ∧
        (exists r, r ∈ g.processes ∧ statuses.get r = status) := by
    have hfirst := g.processes_first
    revert hfirst
    cases g.processes with
    | nil =>
        intro hfirst
        cases hfirst
    | cons s rest =>
        intro _
        rcases foldl_min_least statuses rest (statuses.get s) with
          ⟨hstart, hmembers, hattained⟩
        refine ⟨_, rfl, ?_, ?_⟩
        · intro t ht
          cases ht with
          | head => exact hstart
          | tail _ htail => exact hmembers t htail
        · rcases hattained with hmin | ⟨t, ht, hvalue⟩
          · exact ⟨s, List.mem_cons_self, hmin.symm⟩
          · exact ⟨t, List.mem_cons_of_mem s ht, hvalue⟩
  rcases hcombined with ⟨status, hstatus, hleast, t, ht, hvalue⟩
  refine ⟨status, ?_, ?_, ⟨t, g.mem_processes.mp ht, hvalue⟩⟩
  · intro r hr
    unfold agree
    rw [Communicator.get_allreduce (gridComm_of_active hopen hr), hstatus]
  · intro r hr
    exact hleast r (g.mem_processes.mpr hr)

theorem get_agree_of_common (hopen : g.released = false) {statuses : PerProcess n Int}
    {status : Int} (h : forall r, g.active r = true -> statuses.get r = status)
    {r : Fin n} (hr : g.active r = true) :
    (g.agree statuses).get r = some status := by
  rcases exists_agreed hopen statuses with ⟨agreed, hagreed, _, t, ht, hvalue⟩
  rw [hagreed r hr, ← hvalue, h t ht]

theorem agree_of_inactive {r : Fin n} (hr : g.active r = false)
    (statuses : PerProcess n Int) : (g.agree statuses).get r = none :=
  Communicator.get_allreduce_of_none (gridComm_of_inactive hr) _ _

theorem cleared_of_zero (hopen : g.released = false) {statuses : PerProcess n Int}
    (h : forall r, g.active r = true -> statuses.get r = 0) :
    cleared (g.agree statuses) = true := by
  unfold cleared
  rw [Vector.all_eq_true]
  intro k hk
  have hget : (g.agree statuses)[k] = (g.agree statuses).get ⟨k, hk⟩ := rfl
  rw [hget]
  cases hr : g.active ⟨k, hk⟩ with
  | true =>
      rw [get_agree_of_common hopen h hr]
      rfl
  | false =>
      rw [agree_of_inactive hr]
      rfl

theorem not_cleared_of_agreed {statuses : PerProcess n Int} {status : Int} {r : Fin n}
    (h : (g.agree statuses).get r = some status) (hstatus : status ≠ 0) :
    cleared (g.agree statuses) = false := by
  unfold cleared
  rw [Vector.all_eq_false]
  refine ⟨r.val, r.isLt, ?_⟩
  rw [PerProcess.get_eq_getElem] at h
  rw [h]
  simpa using hstatus

/-!
# The processes that are left out
-/

theorem inactiveCount_pos {r : Fin n} (hr : g.active r = false) :
    g.inactiveCount ≠ 0 := by
  intro hzero
  have hall : g.active r = true := by
    rw [active_iff]
    unfold inactiveCount at hzero
    exact Nat.lt_of_lt_of_le r.isLt (Nat.sub_eq_zero_iff_le.mp hzero)
  rw [hr] at hall
  cases hall

def leftOut (g : Grid n) : Group n :=
  (List.finRange n).filter fun r => r.val == 0 || !g.active r

theorem finRange_eq_cons (g : Grid n) :
    exists rest, List.finRange n = g.first :: rest := by
  cases n with
  | zero => exact absurd g.first.isLt (Nat.not_lt_zero _)
  | succ m => exact ⟨_, List.finRange_succ⟩

theorem leftOut_first (g : Grid n) : g.leftOut[0]? = some g.first := by
  rcases g.finRange_eq_cons with ⟨rest, hrest⟩
  unfold leftOut
  rw [hrest, List.filter_cons]
  rfl

theorem inactiveComm_of_receiver (hopen : g.released = false) {r : Fin n}
    (hr : r = g.first ∨ g.active r = false) :
    g.inactiveComm r = some g.leftOut := by
  have hcolour : (r.val == 0 || !g.active r) = true := by
    rcases hr with hfirst | hinactive
    · rw [g.eq_first.mp hfirst]
      rfl
    · rw [hinactive]
      simp
  have hmembers : ((List.finRange n).filter fun s =>
      (if s.val == 0 || !g.active s then some 0 else none) == some 0) = g.leftOut := by
    unfold leftOut
    apply List.filter_congr
    intro s _
    cases (s.val == 0 || !g.active s) <;> rfl
  unfold inactiveComm unlessReleased
  rw [hopen, if_neg Bool.false_ne_true, ← hmembers]
  apply Communicator.split_of_sorted
  · rfl
  · rw [if_pos hcolour]
  · exact ((List.pairwise_lt_finRange n).filter _).imp fun h => Nat.le_of_lt h

theorem inactiveComm_of_active {r : Fin n} (hr : g.active r = true)
    (hfirst : r ≠ g.first) : g.inactiveComm r = none := by
  have hval : r.val ≠ 0 := fun h => hfirst (g.eq_first.mpr h)
  unfold inactiveComm unlessReleased
  cases g.released with
  | true => rfl
  | false => simp [Communicator.split, Communicator.world, hr, hval]

theorem get_sendToInactive (hopen : g.released = false) (values : PerProcess n alpha)
    (r : Fin n) :
    (g.sendToInactive values).get r =
      if g.active r then values.get r else values.get g.first := by
  unfold sendToInactive
  cases hr : g.active r with
  | true =>
      by_cases hcount : g.inactiveCount = 0
      · rw [if_pos hcount]
        rfl
      · rw [if_neg hcount]
        by_cases hfirst : r = g.first
        · rw [Communicator.get_broadcast
            (inactiveComm_of_receiver hopen (Or.inl hfirst)) g.leftOut_first, hfirst]
          rfl
        · rw [Communicator.get_broadcast_of_none (inactiveComm_of_active hr hfirst)]
          rfl
  | false =>
      rw [if_neg (inactiveCount_pos hr), Communicator.get_broadcast
        (inactiveComm_of_receiver hopen (Or.inr hr)) g.leftOut_first]
      rfl

theorem get_sendStatusToInactive (hopen : g.released = false)
    (statuses : PerProcess n Int) (r : Fin n) :
    (g.sendStatusToInactive statuses).get r =
      if g.active r then statuses.get r else statuses.get g.first := by
  unfold sendStatusToInactive
  rw [get_sendToInactive hopen, PerProcess.get_ofFn, PerProcess.get_ofFn, g.active_first]
  cases g.active r with
  | true => rfl
  | false => rfl

/-- Where nobody is left out, the first process sends to itself alone. -/
theorem sendBufferToInactive_eq_broadcast (hopen : g.released = false)
    (buffers : PerProcess n (Array alpha)) :
    g.sendBufferToInactive buffers = g.inactiveComm.broadcastBuffer 0 buffers := by
  unfold sendBufferToInactive
  by_cases hcount : g.inactiveCount = 0
  · rw [if_pos hcount]
    apply PerProcess.ext
    intro r
    have hactive : g.active r = true :=
      Bool.eq_true_of_not_eq_false fun h => inactiveCount_pos h hcount
    by_cases hfirst : r = g.first
    · rw [Communicator.get_broadcastBuffer
        (inactiveComm_of_receiver hopen (Or.inl hfirst)) g.leftOut_first, hfirst,
        Communicator.overwrite_of_size_le (Nat.le_refl _)]
    · rw [Communicator.get_broadcastBuffer_of_none (inactiveComm_of_active hactive hfirst)]
  · rw [if_neg hcount]

/-- Buffers are sent as values where none is longer than that of the first process. -/
theorem get_sendBufferToInactive (hopen : g.released = false)
    {buffers : PerProcess n (Array alpha)}
    (hsizes : forall r, (buffers.get r).size ≤ (buffers.get g.first).size) (r : Fin n) :
    (g.sendBufferToInactive buffers).get r =
      if g.active r then buffers.get r else buffers.get g.first := by
  rw [sendBufferToInactive_eq_broadcast hopen]
  cases hr : g.active r with
  | true =>
      by_cases hfirst : r = g.first
      · rw [Communicator.get_broadcastBuffer
          (inactiveComm_of_receiver hopen (Or.inl hfirst)) g.leftOut_first, hfirst,
          Communicator.overwrite_of_size_le (Nat.le_refl _)]
        rfl
      · rw [Communicator.get_broadcastBuffer_of_none (inactiveComm_of_active hr hfirst)]
        rfl
  | false =>
      rw [Communicator.get_broadcastBuffer
        (inactiveComm_of_receiver hopen (Or.inr hr)) g.leftOut_first,
        Communicator.overwrite_of_size_le (hsizes r)]
      rfl

/-!
# Values that the grid has in common
-/

section

variable (hopen : g.released = false)

include hopen

theorem sendToInactive_of_common {values : PerProcess n alpha} {value : alpha}
    (h : forall r, g.active r = true -> values.get r = value) (r : Fin n) :
    (g.sendToInactive values).get r = value := by
  rw [get_sendToInactive hopen]
  cases hr : g.active r with
  | true => exact h r hr
  | false => exact h g.first g.active_first

theorem sendStatusToInactive_of_common {statuses : PerProcess n Int} {status : Int}
    (h : forall r, g.active r = true -> statuses.get r = status) (r : Fin n) :
    (g.sendStatusToInactive statuses).get r = status := by
  rw [get_sendStatusToInactive hopen]
  cases hr : g.active r with
  | true => exact h r hr
  | false => exact h g.first g.active_first

/-- Statuses that all processes of the grid have are shared with all others. -/
theorem shareStatuses_of_common {statuses : PerProcess n (Option Int)} {status : Int}
    (h : forall r, g.active r = true -> statuses.get r = some status) (r : Fin n) :
    (g.sendStatusToInactive (statuses.map fun s => s.getD 0)).get r = status := by
  apply sendStatusToInactive_of_common hopen
  intro s hs
  rw [PerProcess.get_map, h s hs]
  rfl

theorem sendBufferToInactive_of_common {buffers : PerProcess n (Array alpha)}
    {buffer : Array alpha} (h : forall r, g.active r = true -> buffers.get r = buffer)
    (hinactive : forall r, g.active r = false -> (buffers.get r).size ≤ buffer.size)
    (r : Fin n) :
    (g.sendBufferToInactive buffers).get r = buffer := by
  have hsizes : forall s, (buffers.get s).size ≤ (buffers.get g.first).size := by
    intro s
    rw [h g.first g.active_first]
    cases hs : g.active s with
    | true => rw [h s hs]
    | false => exact hinactive s hs
  rw [get_sendBufferToInactive hopen hsizes]
  cases hr : g.active r with
  | true => exact h r hr
  | false => exact h g.first g.active_first

end

end Grid
end BlockCyclic
