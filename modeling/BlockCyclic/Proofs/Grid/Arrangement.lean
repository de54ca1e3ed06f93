import BlockCyclic.Proofs.Grid.Messages
import BlockCyclic.Proofs.Matrix.Creation

/-!
# How a grid arranges its processes

The number of a process tells its grid position, and its number in each group of the grid
is a coordinate of that position: blocks, norms and statuses are exchanged on the strength
of that. Those left out form a group with the first process, in which it comes first, so
that whatever it sends there reaches all of them and changes nothing on the grid.
-/

namespace BlockCyclic

variable {n : Nat} {alpha : Type}

/-!
# Numbers in a group
-/

/--
A process has a number in its group, which consists of `size` processes, those of one kind.
-/
structure Communicator.Seats (c : Communicator n) (r : Fin n) (number size : Nat)
    (kind : Fin n -> Prop) : Prop where
  rank : c.rank? r = some number
  size : c.size? r = some size
  members : exists group, c r = some group ∧ forall s, s ∈ group ↔ kind s

theorem Communicator.seats_of_getElem? {c : Communicator n} {r : Fin n} {group : Group n}
    {number size : Nat} {kind : Fin n -> Prop} (hgroup : c r = some group)
    (hsorted : group.Pairwise (· < ·)) (hnumber : group[number]? = some r)
    (hsize : group.length = size) (hkind : forall s, s ∈ group ↔ kind s) :
    c.Seats r number size kind where
  rank := by
    rcases List.getElem?_eq_some_iff.mp hnumber with ⟨hlt, hr⟩
    have hnodup : group.Nodup := hsorted.imp fun h => Fin.ne_of_lt h
    unfold rank?
    rw [hgroup, Option.map_some, ← hr, List.Nodup.idxOf_getElem hnodup number hlt]
  size := by
    unfold size?
    rw [hgroup, Option.map_some, hsize]
  members := ⟨group, hgroup, hkind⟩

namespace Grid

/-!
# Groups of active processes
-/

section

variable {g : Grid n}

theorem getElem?_rowGroup (i : Fin g.rows) (j : Fin g.cols) :
    (g.rowGroup i)[j.val]? = some (g.processAt i j) := by
  unfold rowGroup
  rw [List.getElem?_map, List.getElem?_eq_getElem (by rw [List.length_finRange]; exact j.isLt),
    List.getElem_finRange]
  rfl

theorem getElem?_colGroup (i : Fin g.rows) (j : Fin g.cols) :
    (g.colGroup j)[i.val]? = some (g.processAt i j) := by
  unfold colGroup
  rw [List.getElem?_map, List.getElem?_eq_getElem (by rw [List.length_finRange]; exact i.isLt),
    List.getElem_finRange]
  rfl

variable (hopen : g.released = false) {r : Fin n} (hr : g.active r = true)

include hopen hr

theorem seats_gridComm :
    g.gridComm.Seats r r.val (g.rows * g.cols) fun s => g.active s = true :=
  Communicator.seats_of_getElem? (gridComm_of_active hopen hr) g.processes_sorted
    ((g.getElem?_processes ((g.active_iff r).mp hr)).mpr rfl) g.length_processes
    fun _ => g.mem_processes

theorem seats_rowComm :
    g.rowComm.Seats r (r.val % g.cols) g.cols fun s =>
      g.active s = true ∧ s.val / g.cols = r.val / g.cols := by
  apply Communicator.seats_of_getElem? (rowComm_of_active hopen hr) (g.rowGroup_sorted _)
  · rw [getElem?_rowGroup ⟨r.val / g.cols, row_lt hr⟩ ⟨r.val % g.cols, col_lt r⟩,
      g.processAt_self hr]
  · unfold rowGroup
    rw [List.length_map, List.length_finRange]
  · intro s
    exact g.mem_rowGroup

theorem seats_colComm :
    g.colComm.Seats r (r.val / g.cols) g.rows fun s =>
      g.active s = true ∧ s.val % g.cols = r.val % g.cols := by
  apply Communicator.seats_of_getElem? (colComm_of_active hopen hr) (g.colGroup_sorted _)
  · rw [getElem?_colGroup ⟨r.val / g.cols, row_lt hr⟩ ⟨r.val % g.cols, col_lt r⟩,
      g.processAt_self hr]
  · unfold colGroup
    rw [List.length_map, List.length_finRange]
  · intro s
    exact g.mem_colGroup

end

/-!
# Processes that are left out
-/

section

variable {g : Grid n} {r : Fin n}

theorem rowComm_of_inactive (hr : g.active r = false) : g.rowComm r = none := by
  unfold rowComm Communicator.split
  rw [gridComm_of_inactive hr]

theorem colComm_of_inactive (hr : g.active r = false) : g.colComm r = none := by
  unfold colComm Communicator.split
  rw [gridComm_of_inactive hr]

theorem leftOut_eq_cons (g : Grid n) :
    g.leftOut = g.first :: (List.finRange n).filter fun s => !g.active s := by
  rcases g.finRange_eq_cons with ⟨rest, hrest⟩
  have hsorted := List.pairwise_lt_finRange n
  rw [hrest, List.pairwise_cons] at hsorted
  unfold leftOut
  rw [hrest, List.filter_cons_of_pos (by rfl),
    List.filter_cons_of_neg (by rw [g.active_first]; decide)]
  congr 1
  apply List.filter_congr
  intro s hs
  have hlater : s.val ≠ 0 := Nat.ne_of_gt (hsorted.1 s hs)
  rw [beq_false_of_ne hlater, Bool.false_or]

theorem inactiveComm_eq (hopen : g.released = false) (r : Fin n) :
    g.inactiveComm r =
      if r = g.first ∨ g.active r = false then
        some (g.first :: (List.finRange n).filter fun s => !g.active s)
      else none := by
  by_cases hr : r = g.first ∨ g.active r = false
  · rw [if_pos hr, inactiveComm_of_receiver hopen hr, g.leftOut_eq_cons]
  · have hactive : g.active r = true := Bool.eq_true_of_not_eq_false fun h => hr (Or.inr h)
    rw [if_neg hr, inactiveComm_of_active hactive fun h => hr (Or.inl h)]

end

/-!
# Grids that are made
-/

section

variable {p q : Nat} {context : Fin n -> Int} {g : Grid n}

theorem ofShape_of_fits (context : Fin n -> Int) (hp : 0 < p) (hq : 0 < q) (hfits : p * q ≤ n) :
    (ofShape context p q : Except Failure (Grid n)) =
      .ok ⟨p, q, hp, hq, hfits, context, false⟩ := by
  unfold ofShape
  rw [dif_pos ⟨hp, hq, hfits⟩]

theorem eq_of_ofShape (h : ofShape context p q = .ok g) :
    (g.rows = p ∧ g.cols = q) ∧ g.context = context ∧ g.released = false := by
  unfold ofShape at h
  split at h
  · cases h
    exact ⟨⟨rfl, rfl⟩, rfl, rfl⟩
  · cases h

/-- Whatever is asked for, a grid is made from its shape alone. -/
theorem ofShape_of_create {block : Int} {request : Request}
    (h : create context block request = .ok g) :
    ofShape context g.rows g.cols = .ok g := by
  have hmade : exists shape : Nat × Nat, ofShape context shape.1 shape.2 = .ok g := by
    unfold create at h
    split at h
    · rcases Except.bind_eq_ok.mp h with ⟨_, _, h⟩
      rcases Except.bind_eq_ok.mp h with ⟨shape, _, h⟩
      exact ⟨shape, h⟩
    · rcases Except.bind_eq_ok.mp h with ⟨_, _, h⟩
      rcases Except.bind_eq_ok.mp h with ⟨_, _, h⟩
      rcases Except.bind_eq_ok.mp h with ⟨shape, _, h⟩
      exact ⟨shape, h⟩
    · cases h
  rcases hmade with ⟨shape, hshape⟩
  rw [(eq_of_ofShape hshape).1.1, (eq_of_ofShape hshape).1.2]
  exact hshape

end

/--
The grid of a shape that fits, however it is asked for, has its first processes row by row:
each has its position, its number in the grid, and the coordinates of its position as its
numbers in its row and its column. The others are in none of these groups, but in one with
the first process. Buffers of one length that are sent there arrive, and nothing else
changes; where nobody is left out, sending and keeping still are the same.
-/
theorem groups_follow_positions (context : Fin n -> Int) {p q : Nat} (hp : 0 < p) (hq : 0 < q)
    (hfits : p * q ≤ n) :
    exists g : Grid n, ofShape context p q = .ok g ∧
      (forall block request made, create context block request = .ok made ->
        made.rows = p -> made.cols = q -> made = g) ∧
      (forall r : Fin n, r.val < p * q ->
        g.active r = true ∧
        g.coords r = (((r.val / q : Nat) : Int), ((r.val % q : Nat) : Int)) ∧
        g.gridComm.Seats r r.val (p * q) (fun s => s.val < p * q) ∧
        g.rowComm.Seats r (r.val % q) q
          (fun s => s.val < p * q ∧ s.val / q = r.val / q) ∧
        g.colComm.Seats r (r.val / q) p
          (fun s => s.val < p * q ∧ s.val % q = r.val % q)) ∧
      (forall r : Fin n, p * q ≤ r.val ->
        g.active r = false ∧ g.coords r = (-1, -1) ∧ g.gridComm r = none ∧
        g.rowComm r = none ∧ g.colComm r = none) ∧
      (forall r : Fin n, g.inactiveComm r =
        if r = g.first ∨ p * q ≤ r.val then
          some (g.first :: (List.finRange n).filter fun s => decide (p * q ≤ s.val))
        else none) ∧
      (forall buffers : PerProcess n (Array alpha),
        (forall r s, (buffers.get r).size = (buffers.get s).size) -> forall r,
          (g.sendBufferToInactive buffers).get r =
            if r.val < p * q then buffers.get r else buffers.get g.first) ∧
      (forall buffers : PerProcess n (Array alpha),
        g.sendBufferToInactive buffers = g.inactiveComm.broadcastBuffer 0 buffers) := by
  let g : Grid n := ⟨p, q, hp, hq, hfits, context, false⟩
  have hopen : g.released = false := rfl
  have hactive : forall r : Fin n, g.active r = true ↔ r.val < p * q := g.active_iff
  have hinactive : forall r : Fin n, g.active r = false ↔ p * q ≤ r.val := by
    intro r
    rw [← Bool.not_eq_true, hactive, Nat.not_lt]
  refine ⟨g, ofShape_of_fits context hp hq hfits, ?_, ?_, ?_, ?_, ?_,
    sendBufferToInactive_eq_broadcast hopen⟩
  · rintro block request made hmade rfl rfl
    have hshape := ofShape_of_create hmade
    rw [ofShape_of_fits context hp hq hfits] at hshape
    exact (Except.ok.inj hshape).symm
  · intro r hlt
    have hr := (hactive r).mpr hlt
    have hgrid := seats_gridComm hopen hr
    have hrow := seats_rowComm hopen hr
    have hcol := seats_colComm hopen hr
    simp only [hactive] at hgrid hrow hcol
    refine ⟨hr, ?_, hgrid, hrow, hcol⟩
    unfold coords
    rw [if_pos hr]
  · intro r hle
    have hr := (hinactive r).mpr hle
    refine ⟨hr, ?_, gridComm_of_inactive hr, rowComm_of_inactive hr, colComm_of_inactive hr⟩
    unfold coords
    rw [hr]
    rfl
  · intro r
    have hkind : (fun s : Fin n => !g.active s) = fun s => decide (p * q ≤ s.val) := by
      funext s
      rw [Bool.eq_iff_iff, Bool.not_eq_true', hinactive, decide_eq_true_iff]
    rw [inactiveComm_eq hopen, hkind]
    simp only [hinactive]
  · intro buffers hsizes r
    rw [get_sendBufferToInactive hopen fun r => Nat.le_of_eq (hsizes r _)]
    simp only [hactive]

/-- Five processes on a grid of two rows and two columns. -/
theorem groups_follow_positions_one_left_out :
    exists g : Grid 5, ofShape (fun _ => 0) 2 2 = .ok g ∧
      g.rowComm.Seats 3 1 2 (fun s => s.val < 4 ∧ s.val / 2 = 1) ∧
      g.inactiveComm 4 = some [0, 4] ∧
      (g.sendBufferToInactive #v[#[1, 2], #[3, 4], #[5, 6], #[7, 8], #[9, 9]]).get 4 = #[1, 2] := by
  rcases @groups_follow_positions 5 Nat (fun _ => 0) 2 2 (by decide) (by decide) (by decide) with
    ⟨g, hg, _, hactive, _, hleft, hsent, _⟩
  have hfirst : g.first = 0 := rfl
  refine ⟨g, hg, (hactive 3 (by decide)).2.2.2.1, ?_, ?_⟩
  · rw [hleft 4, hfirst]
    decide
  · rw [hsent _ (by decide) 4, hfirst]
    decide

end Grid
end BlockCyclic
