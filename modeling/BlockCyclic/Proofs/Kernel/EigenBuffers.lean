import BlockCyclic.Proofs.Kernel.EigenTarget

/-!
# Buffers of eigenvalues

A buffer may be longer than the matrix has eigenvalues. The first process writes them to the
front of its own and leaves the rest alone, but then its whole buffer is sent to the others.
What is behind the eigenvalues is therefore kept on the first process only, and everywhere
else it is what the first process has there.
-/

namespace BlockCyclic

variable {n : Nat} {alpha rho : Type}

/--
Calls that are alike in what they ask for. The buffers, the target of the eigenvectors and the
workspace are anything.
-/
structure EigenArgs.Asks (g : Grid n) (p : Precision) (desc : Descriptor) (vectors : Bool)
    (t : Triangle) (args : PerProcess n (EigenArgs alpha)) : Prop where
  operands : g.Carries p desc (args.map EigenArgs.operand)
  jobz : forall r, g.active r = true -> (args.get r).jobz = if vectors then "V" else "N"
  uplo : forall r, g.active r = true -> (args.get r).uplo = t.letter

def SameFrom (start : Nat) (buffer other : Array alpha) : Prop :=
  forall i, start ≤ i -> buffer[i]? = other[i]?

def Begins (buffer values : Array alpha) : Prop :=
  forall i, i < values.size -> buffer[i]? = values[i]?

namespace Communicator

theorem begins_overwrite (buffer values : Array alpha) :
    Begins (overwrite buffer values) values := by
  intro i hi
  rw [getElem?_overwrite, if_pos hi]

theorem sameFrom_overwrite (buffer values : Array alpha) :
    SameFrom values.size (overwrite buffer values) buffer := by
  intro i hi
  rw [getElem?_overwrite, if_neg (Nat.not_lt.mpr hi)]

end Communicator

/-- A buffer that passes its check has room for all eigenvalues. -/
theorem EigenArgs.room_of_check {query : WorkspaceQuery} {g : Grid n} {p : Precision}
    {r : Fin n} {a : EigenArgs alpha} (h : a.check query g p r = 0) :
    a.operand.descriptor.n ≤ (a.values.size : Int) := by
  by_contra hshort
  have hunmet : exists d, d ∈ a.demands query g p r ∧ d.met = false := by
    refine ⟨⟨5, decide (a.operand.descriptor.n ≤ (a.values.size : Int))⟩, ?_,
      decide_eq_false hshort⟩
    unfold demands operandDemands
    simp
  have hneg := Demand.firstOffence_neg hunmet
  rw [← EigenArgs.check_eq] at hneg
  omega

namespace Kernel

variable [Zero alpha] {g : Grid n} (hopen : g.released = false) {p : Precision}
  {order length : Nat} {desc : Descriptor} {vectors : Bool} {t : Triangle}
  {args : PerProcess n (EigenArgs alpha)} {k : SerialKernels alpha rho}

include hopen

section

variable (hdesc : desc.Describes order order) (h : EigenArgs.Asks g p desc vectors t args)
  {r : Fin n} (hr : g.active r = true) (hstatus : ((eigen k g p args).get r).status = some 0)

include hdesc h hr hstatus

theorem solved_of_status_eigen (hshape : k.KeepsShape) :
    exists x, g.gathered (args.map EigenArgs.operand) = some x ∧
      Grid.cleared (g.agree (Vector.ofFn fun s =>
        (args.get s).check k.eigenWorkspace g p s)) = true ∧
      (solveEigen k g p args).get g.first = some (k.eigen p vectors t x) ∧
      (k.eigen p vectors t x).status = 0 ∧ (k.eigen p vectors t x).values.size = order := by
  rcases Grid.exists_gathered hopen hdesc h.operands with ⟨x, hgathered, hx, hrows, hcols⟩
  have hcleared :
      Grid.cleared (g.agree (Vector.ofFn fun s =>
        (args.get s).check k.eigenWorkspace g p s)) = true := by
    apply Grid.cleared_of_zero hopen
    intro s hs
    rw [PerProcess.get_ofFn]
    exact check_of_status_eigen hopen hr hstatus hs
  have hsolved : (solveEigen k g p args).get g.first = some (k.eigen p vectors t x) := by
    rw [hx]
    apply solveEigen_of_pieces hopen (Grid.legal_of_carries hdesc h.operands)
      (h.jobz _ g.active_first)
    rw [h.uplo _ g.active_first]
    exact t.ofLetter?_letter
  have hzero : (k.eigen p vectors t x).status = 0 :=
    Option.some.inj ((status_eigen_of_solved hopen hcleared hsolved hr).symm.trans hstatus)
  have hsize := hshape.values p vectors t x (hrows.trans hcols.symm) hzero
  exact ⟨x, hgathered, hcleared, hsolved, hzero, hsize.trans hrows⟩

theorem room_of_status_eigen {s : Fin n} (hs : g.active s = true) :
    order ≤ (args.get s).values.size := by
  have hroom := EigenArgs.room_of_check (check_of_status_eigen hopen hr hstatus hs)
  have hcols := congrArg DescriptorOf.n (h.operands.descriptor s hs)
  rw [PerProcess.get_map] at hcols
  simp only [hdesc.cols] at hcols
  rw [hcols] at hroom
  exact Int.ofNat_le.mp hroom

end

omit hopen in
theorem kept_eigen_of_inactive {s : Fin n} (hs : g.active s = false) :
    ((eigen k g p args).get s).status = none ∧
      ((eigen k g p args).get s).values = (args.get s).values ∧
      ((eigen k g p args).get s).vectors = (args.get s).vectors.block := by
  have hnone : ((eigen k g p args).get s).status = none := status_eigen_of_inactive hs
  refine ⟨hnone, buffers_eigen_of_status_ne ?_⟩
  rw [hnone]
  exact (Option.some_ne_none 0).symm

/--
If a process of the grid comes to a status of zero, all of them do. Their buffers then begin
with the serial eigenvalues, and behind these they all hold what the first process held there
before, so that a process keeps what it held exactly where it held the same. Eigenvectors that
are not asked for change nothing, and nothing changes on the processes left out.
-/
theorem eigen_spreads_first_buffer (hshape : k.KeepsShape) (hdesc : desc.Describes order order)
    (h : EigenArgs.Asks g p desc vectors t args)
    (hbuffers : forall r, g.active r = true -> (args.get r).values.size = length)
    {r : Fin n} (hr : g.active r = true)
    (hstatus : ((eigen k g p args).get r).status = some 0) :
    exists x, g.gathered (args.map EigenArgs.operand) = some x ∧
      let serial := k.eigen p vectors t x
      let results := eigen k g p args
      serial.status = 0 ∧ serial.values.size = order ∧ order ≤ length ∧
      (forall s, g.active s = true -> (results.get s).status = some 0 ∧
        (results.get s).values.size = length ∧
        Begins (results.get s).values serial.values ∧
        SameFrom order (results.get s).values (args.get g.first).values ∧
        (SameFrom order (results.get s).values (args.get s).values ↔
          SameFrom order (args.get s).values (args.get g.first).values)) ∧
      (vectors = false -> forall s,
        (results.get s).vectors = (args.get s).vectors.block) ∧
      (forall s, g.active s = false -> (results.get s).status = none ∧
        (results.get s).values = (args.get s).values ∧
        (results.get s).vectors = (args.get s).vectors.block) := by
  rcases solved_of_status_eigen hopen hdesc h hr hstatus hshape with
    ⟨x, hgathered, hcleared, hsolved, hzero, hsize⟩
  have hroom := room_of_status_eigen hopen hdesc h hr hstatus g.active_first
  rw [hbuffers _ g.active_first] at hroom
  -- The buffer of the first process is as long as the others, so that nothing of them is left.
  have hvalues : forall s, g.active s = true -> ((eigen k g p args).get s).values =
      Communicator.overwrite (args.get g.first).values (k.eigen p vectors t x).values := by
    intro s hs
    rw [values_eigen_of_solved hopen hcleared hsolved hs hzero]
    apply Communicator.overwrite_of_size_le
    rw [Communicator.size_overwrite, hbuffers s hs, hbuffers _ g.active_first]
    exact Nat.le_max_right _ _
  refine ⟨x, hgathered, hzero, hsize, hroom, ?_, ?_, fun s hs => kept_eigen_of_inactive hs⟩
  · intro s hs
    have hsame : SameFrom order ((eigen k g p args).get s).values (args.get g.first).values := by
      rw [hvalues s hs, ← hsize]
      exact Communicator.sameFrom_overwrite _ _
    refine ⟨?_, ?_, ?_, hsame, ?_⟩
    · rw [status_eigen_of_solved hopen hcleared hsolved hs, hzero]
    · rw [hvalues s hs, Communicator.size_overwrite, hbuffers _ g.active_first, hsize]
      exact Nat.max_eq_right hroom
    · rw [hvalues s hs]
      exact Communicator.begins_overwrite _ _
    · constructor
      · exact fun hkept i hi => (hkept i hi).symm.trans (hsame i hi)
      · exact fun hshared i hi => (hsame i hi).trans (hshared i hi).symm
  · intro hunwanted s
    apply vectors_eigen_of_unwanted
    intro hs
    rw [← hunwanted]
    exact EigenArgs.wantsVectors_of_letter (h.jobz s hs)

end Kernel

/-!
# Two places behind one eigenvalue

A matrix of order one is held by the first of two processes; a third one is left out. The
buffers have two places, and the second one is filled differently by the two processes.
-/

namespace TwoBuffers

def grid : Grid 3 :=
  ⟨2, 1, by decide, by decide, by decide, fun _ => 0, false⟩

def descriptor : Descriptor :=
  Descriptor.create (1, 1) (1, 1) 0 1 (0, 0)

/-- A call for the eigenvalues alone, with a block that would also take the eigenvectors. -/
def call (block : Dense Int) (buffer : Array Int) : EigenArgs Int :=
  ⟨"N", "L", ⟨.ofPrecision .double, block, descriptor⟩, buffer,
    ⟨.ofPrecision .double, block, descriptor⟩, 100, 100⟩

def calls : PerProcess 3 (EigenArgs Int) :=
  #v[call (Dense.unit 1) #[9, 5], call (Dense.zeros 0 1) #[9, 7], call (Dense.zeros 0 0) #[]]

theorem square_descriptor : descriptor.Describes 1 1 :=
  ⟨rfl, rfl, by decide, by decide, rfl, rfl⟩

theorem asks_calls : EigenArgs.Asks grid .double descriptor false .lower calls where
  operands := ⟨by decide +kernel, by decide +kernel, by decide +kernel⟩
  jobz := by decide +kernel
  uplo := by decide +kernel

theorem legal_calls :
    EigenArgs.Legal unitKernels.eigenWorkspace grid .double
      (descriptor.distribution grid.shape) false .lower calls where
  operands := Grid.legal_of_carries square_descriptor asks_calls.operands
  square := rfl
  jobz := asks_calls.jobz
  uplo := by decide +kernel
  values := by decide +kernel
  targets := fun hwanted => nomatch hwanted
  workspace := by
    have hcalls : forall r, grid.active r = true -> (calls.get r).operand.descriptor.n ≤ 2 ∧
        100 ≤ (calls.get r).work ∧ 100 ≤ (calls.get r).iwork := by
      decide +kernel
    intro r hr
    exact Kernel.roomy_of_hundred (hcalls r hr).1 (hcalls r hr).2.1 (hcalls r hr).2.2

theorem eigen_calls {r : Fin 3} (hr : grid.active r = true) :
    ((Kernel.eigen unitKernels grid .double calls).get r).status = some 0 ∧
      ((Kernel.eigen unitKernels grid .double calls).get r).values = #[1, 5] := by
  let serial := unitKernels.eigen .double false .lower
    (grid.assembleOperands (descriptor.distribution grid.shape) (calls.map EigenArgs.operand))
  have hserial : serial.status = 0 ∧ serial.values = #[1] := by decide +kernel
  have hsize : ((calls.get r).values.size) ≤ 2 := by
    match r with
    | 0 => decide
    | 1 => decide
    | 2 => decide
  constructor
  · rw [Kernel.status_eigen_of_legal rfl legal_calls rfl hr]
    exact congrArg some hserial.1
  · rw [Kernel.values_eigen_of_legal rfl legal_calls rfl hserial.1 hr, hserial.2]
    exact Communicator.overwrite_of_size_le hsize

end TwoBuffers

namespace Kernel

/-- What is behind the eigenvalue is kept on the first process only. -/
theorem eigen_spreads_first_buffer_two_places :
    let results := eigen unitKernels TwoBuffers.grid .double TwoBuffers.calls
    let held (r : Fin 3) : Array Int := (TwoBuffers.calls.get r).values
    (results.get 0).status = some 0 ∧
    SameFrom 1 (results.get 0).values (held 0) ∧ SameFrom 1 (results.get 1).values (held 0) ∧
    ¬ SameFrom 1 (results.get 1).values (held 1) ∧
    (results.get 1).vectors = (TwoBuffers.calls.get 1).vectors.block ∧
    (results.get 2).values = held 2 := by
  intro results held
  have hbuffers : forall r, TwoBuffers.grid.active r = true ->
      (TwoBuffers.calls.get r).values.size = 2 := by
    decide +kernel
  have hstatus := (TwoBuffers.eigen_calls (r := 0) rfl).1
  rcases eigen_spreads_first_buffer rfl unitKernels_keepsShape TwoBuffers.square_descriptor
    TwoBuffers.asks_calls hbuffers rfl hstatus with
    ⟨x, _, _, _, _, hactive, hvectors, hinactive⟩
  refine ⟨hstatus, (hactive 0 rfl).2.2.2.1, (hactive 1 rfl).2.2.2.1, ?_, hvectors rfl 1,
    (hinactive 2 rfl).2.1⟩
  intro hkept
  have hsame := (hactive 1 rfl).2.2.2.2.mp hkept 1 (Nat.le_refl 1)
  revert hsame
  decide

/-- The second process held another number behind its eigenvalue, which is lost. -/
theorem eigen_overwrites_behind :
    let results := eigen unitKernels TwoBuffers.grid .double TwoBuffers.calls
    (TwoBuffers.calls.get 0).values = #[9, 5] ∧ (TwoBuffers.calls.get 1).values = #[9, 7] ∧
    (results.get 0).status = some 0 ∧ (results.get 1).status = some 0 ∧
    (results.get 0).values = #[1, 5] ∧ (results.get 1).values = #[1, 5] :=
  ⟨rfl, rfl, (TwoBuffers.eigen_calls rfl).1, (TwoBuffers.eigen_calls rfl).1,
    (TwoBuffers.eigen_calls rfl).2, (TwoBuffers.eigen_calls rfl).2⟩

end Kernel
end BlockCyclic
