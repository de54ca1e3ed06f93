import BlockCyclic.Proofs.Matrix.AllOrNothing

/-!
# Failures of all processes

A precondition that is not met, or a kernel that fails, stops a call on all processes at
once, so that the whole matrix stays as it was. This rests on their agreement, which only
a function that serves some processes and not others can end: those on which it fails keep
their state while the others load.
-/

namespace BlockCyclic

variable {n : Nat} {delta alpha rho : Type}

/-- Failures that come from the state of the matrix or from its kernels. -/
def Failure.Joint : Failure -> Prop
  | .precondition _ => True
  | .numerical _ => True
  | _ => False

namespace DistributedMatrix

variable [Zero alpha] {a : DistributedMatrix n alpha} {numerics : Numerics delta alpha rho}

theorem not_joint_of_withinRange {beta : Type} {verdict : Option Bool} {fault : IndexFault}
    {value : beta} {failure : Failure} (h : withinRange verdict fault value = .error failure) :
    ¬ failure.Joint := by
  cases verdict with
  | none =>
      cases h
      exact id
  | some inside =>
      cases inside with
      | true => cases h
      | false =>
          cases h
          exact id

omit [Zero alpha] in
theorem not_joint_of_selection {r : Fin n} {i j : Subscript} {failure : Failure}
    (h : a.selection r i j = .error failure) : ¬ failure.Joint := by
  unfold selection at h
  cases hlocal : a.layout.checkLocal r i j with
  | error own =>
      rw [hlocal] at h
      cases h
      exact not_joint_of_withinRange hlocal
  | ok _ =>
      rw [hlocal] at h
      have hof : Selection.of (a.layout.localShape r).1 i j = .error failure := h
      unfold Selection.of at hof
      split at hof
      · cases hof
      · cases hof
      · split at hof
        · cases hof
        · cases hof
          exact id
      · split at hof
        · cases hof
        · cases hof
          exact id
      · cases hof
        exact id

/-- A write to a position outside a block is refused for the position only. -/
theorem not_joint_of_setElement {r : Fin n} {i j : Subscript} {value : alpha}
    {failure : Failure} (h : (a.setElement r i j value).result = .error failure) :
    ¬ failure.Joint := by
  unfold setElement at h
  simp only at h
  cases hselection : a.selection r i j with
  | ok selected =>
      rw [hselection] at h
      cases h
  | error own =>
      rw [hselection] at h
      cases h
      exact not_joint_of_selection hselection

section

variable [Zero rho] [Measure rho] (hopen : a.layout.grid.released = false) (ha : a.Agrees)
  {call : Call n delta alpha rho} {r : Fin n} {failure : Failure}
  (h : ((a.perform numerics call).get r).result = .error failure)

include hopen ha h

/-- What all processes do together fails on all of them if it fails on one. -/
theorem next_eq_of_collective (hcall : call.Collective numerics a.layout) :
    a.next numerics call = a := by
  rcases Replies.outcome_of_concur (concur_perform hopen ha hcall) with
    ⟨common, hcommon⟩ | hresults
  · apply next_eq_of_parts
    intro s
    exact atomic_perform hopen call s common (hcommon s)
  · rcases hresults r r with ⟨x, _, hx, _⟩
    rw [hx] at h
    cases h

theorem next_eq_of_joint (hcall : call.Whole numerics a.layout) (hjoint : failure.Joint) :
    a.next numerics call = a := by
  cases call with
  | setElement writers i j value =>
      unfold perform at h
      simp only at h
      rw [PerProcess.get_ofFn] at h
      cases hwriter : writers r with
      | true =>
          rw [hwriter, if_pos rfl] at h
          exact absurd hjoint (not_joint_of_setElement (Reply.failure_of_map h))
      | false =>
          rw [hwriter] at h
          cases h
  | fill f choice =>
      rcases hcall with ⟨refusal, hrefused⟩ | hsupplies | hnone
      · exact next_fill_of_nothing fun s => (nothing_of_refused hrefused s).2
      · exact next_eq_of_collective hopen ha h hsupplies
      · exact next_fill_of_nothing fun s => (nothing_of_unsupplied (hnone s)).2
  | _ => exact next_eq_of_collective hopen ha h trivial

end

end DistributedMatrix

/-!
# Histories
-/

theorem DistributedMatrix.failures_are_atomic [Zero alpha] [Zero rho] [Measure rho]
    (numerics : Numerics delta alpha rho) {q : MatrixRequest} {settings : Settings}
    {grid : Grid n} (hopen : grid.released = false) {shape : Argument}
    {made : Created n alpha} (hmade : q.create settings grid shape = .ok made)
    (before : List (Call n delta alpha rho)) (call : Call n delta alpha rho) :
    let a := made.matrix.run numerics before
    let b := a.next numerics call
    let replies := a.perform numerics call
    (forall r failure, (replies.get r).result = .error failure -> b.part r = a.part r) ∧
    ((forall c, c ∈ before ++ [call] -> c.Whole numerics made.matrix.layout) ->
      forall r failure, (replies.get r).result = .error failure -> failure.Joint ->
        (forall s, b.part s = a.part s) ∧ b.gathered = a.gathered) := by
  intro a b replies
  rcases MatrixRequest.matrix_of_create hmade with ⟨hgrid, property, hblank⟩
  have hlayout : a.layout = made.matrix.layout := layout_run _ before
  have hopenMade : made.matrix.layout.grid.released = false := by rw [hgrid, hopen]
  have hopenNow : a.layout.grid.released = false := by rw [hlayout, hopenMade]
  constructor
  · intro r failure hfailure
    show (a.next numerics call).part r = a.part r
    rw [part_next]
    exact atomic_perform hopenNow call r failure hfailure
  · intro hwhole r failure hfailure hjoint
    have ha : a.Agrees := by
      apply agrees_run_of_whole hopenMade
      · rw [hblank]
        exact agrees_blank _ property
      · intro earlier hearlier
        exact hwhole earlier (List.mem_append_left _ hearlier)
    have hcall : call.Whole numerics a.layout := by
      rw [hlayout]
      exact hwhole call (List.mem_append_right before List.mem_cons_self)
    have hsame : b = a := next_eq_of_joint hopenNow ha hfailure hcall hjoint
    rw [hsame]
    exact ⟨fun _ => rfl, rfl⟩

/-- A symmetric matrix on one of two processes that is to be inverted before it is factored. -/
theorem DistributedMatrix.failures_are_atomic_unfactored :
    let grid : Grid 2 := ⟨1, 1, by decide, by decide, by decide, fun _ => 0, false⟩
    let q : MatrixRequest := ⟨.whole 1, .absent, .given .symmetric, .absent⟩
    let made : Created 2 Int :=
      ⟨.blank ⟨grid, 1, 1, 1, 1, .double, by decide, by decide, by decide, by decide⟩ .symmetric,
        .serialOnRoot⟩
    let x : Sheet Int := ⟨[1, 1], .ofPrecision .double, #[4]⟩
    let load : Call 2 Int Int Int :=
      .assign (Vector.ofFn fun r => if r.val = 0 then some x else none) .unspecified
    let a := made.matrix.run exactNumerics [load]
    let b := a.next exactNumerics .invert
    q.create .standard grid (.whole 1) = .ok made ∧
    ((a.perform exactNumerics .invert).get 0).result =
      .error (.precondition (.state .inversion .matrix)) ∧
    (a.part 0).block.entries = #[4] ∧ (forall s, b.part s = a.part s) ∧
    b.gathered = a.gathered := by
  intro grid q made x load a b
  have hmade : q.create .standard grid (.whole 1) = .ok made := rfl
  have hwhole : forall c, c ∈ [load] ++ [.invert] ->
      c.Whole exactNumerics made.matrix.layout := by
    intro c hc
    simp only [List.cons_append, List.nil_append, List.mem_cons, List.not_mem_nil,
      or_false] at hc
    rcases hc with rfl | rfl <;> trivial
  have hrefused : (a.part 0).requireState .inversion =
      .error (.precondition (.state .inversion .matrix)) := by
    have hstate : (a.part 0).state = .matrix := by decide +kernel
    unfold Part.requireState
    rw [hstate]
    rfl
  have hfails : ((a.perform exactNumerics .invert).get 0).result =
      .error (.precondition (.state .inversion .matrix)) := by
    unfold perform invert
    rw [PerProcess.get_map, PerProcess.get_ofFn]
    simp only [hrefused]
    rfl
  have hatomic := (failures_are_atomic exactNumerics rfl hmade [load] .invert).2 hwhole
    0 _ hfails trivial
  exact ⟨hmade, hfails, by decide +kernel, hatomic.1, hatomic.2⟩

/-!
# Without agreement

A function that fails on the grid, but is not evaluated on the process that is left out,
ends the agreement: only that process takes on the new property. It refuses the
factorization, which the others carry out.
-/

theorem DistributedMatrix.fill_splits_states :
    let grid : Grid 2 := ⟨1, 1, by decide, by decide, by decide, fun _ => 0, false⟩
    let q : MatrixRequest := ⟨.whole 1, .absent, .given .symmetric, .absent⟩
    let made : Created 2 Int :=
      ⟨.blank ⟨grid, 1, 1, 1, 1, .double, by decide, by decide, by decide, by decide⟩ .symmetric,
        .serialOnRoot⟩
    let x : Sheet Int := ⟨[1, 1], .ofPrecision .double, #[4]⟩
    let tooLong : Sheet Int := ⟨[3], .ofPrecision .double, #[0, 0, 0]⟩
    let load : Call 2 Int Int Int :=
      .assign (Vector.ofFn fun r => if r.val = 0 then some x else none) .unspecified
    let fill : Call 2 Int Int Int := .fill (fun _ => .ok tooLong) (.given .general)
    let a := made.matrix.run exactNumerics [load, fill]
    let b := a.next exactNumerics .cholesky
    q.create .standard grid (.whole 1) = .ok made ∧
    ((a.perform exactNumerics .cholesky).get 1).result =
      .error (.precondition (.property .cholesky .symmetric .general)) ∧
    (a.part 0).state = .matrix ∧ (b.part 0).state = .cholesky ∧
    (a.part 0).block.entries = #[4] ∧ (b.part 0).block.entries = #[2] := by
  intro grid q made x tooLong load fill a b
  have hrefused : (a.part 1).requireSymmetric .cholesky =
      .error (.precondition (.property .cholesky .symmetric .general)) := by
    have hstate : (a.part 1).state = .matrix := by decide +kernel
    have hproperty : (a.part 1).property = .general := by decide +kernel
    unfold Part.requireSymmetric Part.requireState Part.requireProperty
    rw [hstate, hproperty]
    rfl
  have hallowed : (a.part 0).requireSymmetric .cholesky = .ok () := by
    have hstate : (a.part 0).state = .matrix := by decide +kernel
    have hproperty : (a.part 0).property = .symmetric := by decide +kernel
    unfold Part.requireSymmetric Part.requireState Part.requireProperty
    rw [hstate, hproperty]
    rfl
  let results := Kernel.factor exactKernels a.layout.grid .double (a.lowerArgs a.blocks)
  have hshared : (a.layout.shareStatuses (results.map KernelResult.status)).get 0 = 0 := by
    rw [get_shareStatuses rfl]
    decide +kernel
  have hpart : b.part 0 =
      { a.part 0 with
        block := a.layout.clearAbove 0 (results.get 0).block
        state := .cholesky
        property := .lowerTriangular } := by
    show (a.next exactNumerics .cholesky).part 0 = _
    rw [part_next]
    unfold perform
    rw [PerProcess.get_map]
    exact part_cholesky hallowed hshared
  refine ⟨rfl, ?_, ?_, ?_, ?_, ?_⟩
  · unfold perform cholesky
    rw [PerProcess.get_map, PerProcess.get_ofFn]
    simp only [hrefused]
    rfl
  · decide +kernel
  · rw [hpart]
  · decide +kernel
  · rw [hpart]
    decide +kernel

end BlockCyclic
