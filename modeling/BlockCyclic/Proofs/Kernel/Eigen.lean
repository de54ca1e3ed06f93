import BlockCyclic.Kernel.Eigen
import BlockCyclic.Proofs.Kernel.Factor

/-!
# The eigenproblem on a grid

On legal arguments every process of the grid ends with the status of the serial kernel,
with its eigenvalues at the front of the buffer, and with the pieces of its eigenvectors
where these are wanted.
-/

namespace BlockCyclic

variable {n : Nat} {alpha rho : Type} [Zero alpha]

def EigenArgs.Roomy (query : WorkspaceQuery) (g : Grid n) (p : Precision) (r : Fin n)
    (a : EigenArgs alpha) : Prop :=
  (a.neededWorkspace query g p r).1 ≤ a.work ∧ (a.neededWorkspace query g p r).2 ≤ a.iwork

/-- Arguments that pass all checks of the eigensolver. -/
structure EigenArgs.Legal (query : WorkspaceQuery) (g : Grid n) (p : Precision)
    (d : Distribution) (vectors : Bool) (t : Triangle)
    (args : PerProcess n (EigenArgs alpha)) : Prop where
  operands : g.Legal p d (args.map EigenArgs.operand)
  square : d.rows = d.cols
  jobz : forall r, g.active r = true -> (args.get r).jobz = if vectors then "V" else "N"
  uplo : forall r, g.active r = true -> Triangle.ofLetter? (args.get r).uplo = some t
  values : forall r, g.active r = true -> d.cols ≤ ((args.get r).values.size : Int)
  /-- The layout of the eigenvectors matters only where they are wanted. -/
  targets : vectors = true -> exists target : Distribution,
    g.Legal p target (args.map EigenArgs.vectors)
  workspace : forall r, g.active r = true -> (args.get r).Roomy query g p r

section

variable {query : WorkspaceQuery} {g : Grid n} {p : Precision} {d : Distribution}
  {vectors : Bool} {t : Triangle} {args : PerProcess n (EigenArgs alpha)}

omit [Zero alpha] in
theorem EigenArgs.wantsVectors_of_letter {a : EigenArgs alpha}
    (h : a.jobz = if vectors then "V" else "N") : a.wantsVectors = vectors := by
  unfold wantsVectors
  rw [h]
  cases vectors with
  | true => decide
  | false => decide

omit [Zero alpha] in
theorem EigenArgs.wantsVectors_of_legal (h : EigenArgs.Legal query g p d vectors t args)
    {r : Fin n} (hr : g.active r = true) : (args.get r).wantsVectors = vectors :=
  wantsVectors_of_letter (h.jobz r hr)

omit [Zero alpha] in
theorem EigenArgs.check_of_legal (h : EigenArgs.Legal query g p d vectors t args)
    {r : Fin n} (hr : g.active r = true) : (args.get r).check query g p r = 0 := by
  have hoperand := Grid.checkOperand_of_legal h.operands hr 3 4
  have hmeaning := h.operands.meaning r hr
  have hshape := Descriptor.square_of_meaning hmeaning h.square
  have hvalues := h.values r hr
  have hwork := h.workspace r hr
  have hvectors : (args.get r).wantsVectors = true ->
      g.checkOperand p r (args.get r).vectors 6 7 = 0 := by
    intro hwanted
    rw [wantsVectors_of_legal h hr] at hwanted
    rcases h.targets hwanted with ⟨target, htarget⟩
    have htargets := Grid.checkOperand_of_legal htarget hr 6 7
    rwa [PerProcess.get_map] at htargets
  have hjobz : ((args.get r).jobz != "N" && (args.get r).jobz != "V") = false := by
    rw [h.jobz r hr]
    cases vectors with
    | true => decide
    | false => decide
  have hcols : d.cols = (args.get r).operand.descriptor.n := by
    rw [← hmeaning, PerProcess.get_map]
    rfl
  rw [PerProcess.get_map] at hoperand hshape
  rw [hcols] at hvalues
  have hoperands : (args.get r).checkOperands g p r = 0 := by
    unfold checkOperands
    rw [h.uplo r hr]
    simp only [hjobz, hoperand, hshape, bne_self_eq_false, Bool.false_eq_true, if_false,
      Option.isNone_some, if_neg (Int.not_lt.mpr hvalues)]
    cases hwanted : (args.get r).wantsVectors with
    | true => exact hvectors hwanted
    | false => rfl
  unfold check
  simp only [hoperands, bne_self_eq_false, Bool.false_eq_true, if_false,
    if_neg (Int.not_lt.mpr hwork.1), if_neg (Int.not_lt.mpr hwork.2)]

omit [Zero alpha] in
theorem Spectrum.size_le_fill (buffer : Array alpha) (found : Option (Spectrum alpha)) :
    buffer.size ≤ (Spectrum.fill buffer found).size := by
  cases found with
  | none => exact Nat.le_refl _
  | some spectrum =>
      unfold Spectrum.fill
      by_cases hstatus : spectrum.status = 0
      · simp only [hstatus, if_true]
        rw [Communicator.size_overwrite]
        exact Nat.le_max_right _ _
      · simp only [hstatus, if_false]
        exact Nat.le_refl _

namespace Kernel

variable {k : SerialKernels alpha rho}

theorem get_broadcast_fill (hopen : g.released = false) {r : Fin n}
    (hr : g.active r = true) :
    (g.gridComm.broadcastBuffer 0 (Vector.ofFn fun s =>
        Spectrum.fill (args.get s).values ((solveEigen k g p args).get s))).get r =
      Communicator.overwrite (args.get r).values
        (Spectrum.fill (args.get g.first).values
          ((solveEigen k g p args).get g.first)) := by
  rw [Communicator.get_broadcastBuffer (Grid.gridComm_of_active hopen hr)
    g.processes_first, PerProcess.get_ofFn, PerProcess.get_ofFn]
  by_cases hfirst : r = g.first
  · subst hfirst
    rw [Communicator.overwrite_of_size_le (Nat.le_refl _),
      Communicator.overwrite_of_size_le (Spectrum.size_le_fill _ _)]
  · have hnone : (solveEigen k g p args).get r = none := by
      unfold solveEigen
      simp only [PerProcess.get_ofFn]
      rw [Grid.get_gatherOperands_of_other hopen hfirst]
      rfl
    rw [hnone]
    rfl

theorem solveEigen_of_pieces (hopen : g.released = false)
    (hoperands : g.Legal p d (args.map EigenArgs.operand))
    (hjobz : (args.get g.first).jobz = if vectors then "V" else "N")
    (huplo : Triangle.ofLetter? (args.get g.first).uplo = some t) :
    (solveEigen k g p args).get g.first =
      some (k.eigen p vectors t (g.assembleOperands d (args.map EigenArgs.operand))) := by
  have htriangle : (args.get g.first).triangle = t := by
    unfold EigenArgs.triangle
    rw [huplo]
    rfl
  unfold solveEigen
  simp only [PerProcess.get_ofFn]
  rw [Grid.get_gatherOperands hopen hoperands g.active_first, if_pos rfl, htriangle,
    EigenArgs.wantsVectors_of_letter hjobz]
  rfl

/-!
# Arguments that were cleared
-/

section

variable (hopen : g.released = false)
  (hcleared : Grid.cleared
    (g.agree (Vector.ofFn fun r => (args.get r).check k.eigenWorkspace g p r)) = true)
  {spectrum : Spectrum alpha}
  (hsolved : (solveEigen k g p args).get g.first = some spectrum) {r : Fin n}
  (hr : g.active r = true)

include hopen hcleared hsolved hr

theorem status_eigen_of_solved :
    ((eigen k g p args).get r).status = some spectrum.status := by
  unfold eigen
  simp only [hcleared, if_true, PerProcess.get_ofFn, hr, Grid.get_shareFromRoot hopen hr,
    PerProcess.get_map, hsolved, Option.map_some, Option.getD_some]

theorem values_eigen_of_solved (hstatus : spectrum.status = 0) :
    ((eigen k g p args).get r).values =
      Communicator.overwrite (args.get r).values
        (Communicator.overwrite (args.get g.first).values spectrum.values) := by
  have hfill : Spectrum.fill (args.get g.first).values (some spectrum) =
      Communicator.overwrite (args.get g.first).values spectrum.values :=
    if_pos hstatus
  unfold eigen
  simp only [hcleared, if_true, PerProcess.get_ofFn, hr, Grid.get_shareFromRoot hopen hr,
    PerProcess.get_map, hsolved, Option.map_some, Option.getD_some, hstatus]
  rw [get_broadcast_fill hopen hr, hsolved, hfill]

end

/-!
# Legal arguments
-/

section

variable (hopen : g.released = false) (h : EigenArgs.Legal k.eigenWorkspace g p d vectors t args)

include hopen h

theorem solveEigen_first {spectrum : Spectrum alpha}
    (hserial : k.eigen p vectors t
      (g.assembleOperands d (args.map EigenArgs.operand)) = spectrum) :
    (solveEigen k g p args).get g.first = some spectrum := by
  rw [← hserial]
  exact solveEigen_of_pieces hopen h.operands (h.jobz _ g.active_first) (h.uplo _ g.active_first)

omit [Zero alpha] in
theorem cleared_eigen :
    Grid.cleared
      (g.agree (Vector.ofFn fun r => (args.get r).check k.eigenWorkspace g p r)) = true := by
  apply Grid.cleared_of_zero hopen
  intro r hr
  rw [PerProcess.get_ofFn]
  exact EigenArgs.check_of_legal h hr

theorem status_eigen_of_legal {spectrum : Spectrum alpha}
    (hserial : k.eigen p vectors t
      (g.assembleOperands d (args.map EigenArgs.operand)) = spectrum)
    {r : Fin n} (hr : g.active r = true) :
    ((eigen k g p args).get r).status = some spectrum.status :=
  status_eigen_of_solved hopen (cleared_eigen hopen h) (solveEigen_first hopen h hserial) hr

theorem values_eigen_of_legal {spectrum : Spectrum alpha}
    (hserial : k.eigen p vectors t
      (g.assembleOperands d (args.map EigenArgs.operand)) = spectrum)
    (hstatus : spectrum.status = 0) {r : Fin n} (hr : g.active r = true) :
    ((eigen k g p args).get r).values =
      Communicator.overwrite (args.get r).values
        (Communicator.overwrite (args.get g.first).values spectrum.values) :=
  values_eigen_of_solved hopen (cleared_eigen hopen h) (solveEigen_first hopen h hserial) hr
    hstatus

theorem vectors_eigen_of_legal {spectrum : Spectrum alpha}
    (hserial : k.eigen p vectors t
      (g.assembleOperands d (args.map EigenArgs.operand)) = spectrum)
    (hstatus : spectrum.status = 0) (hvectors : vectors = true) {target : Distribution}
    (htarget : g.Legal p target (args.map EigenArgs.vectors))
    (hrows : (spectrum.vectors.rows : Int) = target.rows)
    (hcols : (spectrum.vectors.cols : Int) = target.cols)
    {r : Fin n} (hr : g.active r = true) :
    ((eigen k g p args).get r).vectors = Grid.cut target spectrum.vectors r := by
  have hwanted := EigenArgs.wantsVectors_of_legal h hr
  rw [hvectors] at hwanted
  unfold eigen
  simp only [cleared_eigen hopen h, if_true, PerProcess.get_ofFn, hr,
    Grid.get_shareFromRoot hopen hr, PerProcess.get_map,
    solveEigen_first hopen h hserial, Option.map_some, Option.getD_some, hstatus,
    hwanted, decide_true, Bool.and_self]
  apply Grid.get_scatterOver hopen htarget _ hrows hcols hr
  rw [PerProcess.get_map, solveEigen_first hopen h hserial]
  rfl

end

/-!
# Any arguments
-/

/--
Where all processes bring one buffer, the processes of the grid end with one status and
with one array of values, which is no shorter.
-/
theorem exists_values_eigen (hopen : g.released = false) {buffer : Array alpha}
    (hbuffer : forall r, (args.get r).values = buffer) :
    exists (status : Int) (values : Array alpha), buffer.size ≤ values.size ∧
      forall r, g.active r = true ->
        ((eigen k g p args).get r).status = some status ∧
          ((eigen k g p args).get r).values = values := by
  rcases Grid.exists_agreed hopen (Vector.ofFn fun r =>
      (args.get r).check k.eigenWorkspace g p r) with
    ⟨agreed, hagreed, _, _⟩
  unfold eigen
  simp only
  split
  · let filled := Spectrum.fill buffer ((solveEigen k g p args).get g.first)
    let status := (((solveEigen k g p args).get g.first).map Spectrum.status).getD 0
    have hfilled : buffer.size ≤ filled.size := Spectrum.size_le_fill _ _
    refine ⟨status, if status = 0 then filled else buffer, ?_, ?_⟩
    · split
      · exact hfilled
      · exact Nat.le_refl _
    · intro r hr
      rw [PerProcess.get_ofFn, if_pos hr, Grid.get_shareFromRoot hopen hr,
        PerProcess.get_map, get_broadcast_fill hopen hr, hbuffer r, hbuffer g.first,
        Communicator.overwrite_of_size_le hfilled]
      exact ⟨rfl, rfl⟩
  · refine ⟨agreed, buffer, Nat.le_refl _, ?_⟩
    intro r hr
    rw [PerProcess.get_ofFn]
    exact ⟨hagreed r hr, hbuffer r⟩

/-- Whatever the arguments are, the buffers are written on a status of zero only. -/
theorem buffers_eigen_of_status_ne {r : Fin n}
    (hstatus : ((eigen k g p args).get r).status ≠ some 0) :
    ((eigen k g p args).get r).values = (args.get r).values ∧
      ((eigen k g p args).get r).vectors = (args.get r).vectors.block := by
  revert hstatus
  unfold eigen
  simp only
  split
  · rw [PerProcess.get_ofFn]
    split
    · intro hstatus
      have hne := fun hzero => hstatus (congrArg some hzero)
      constructor
      · exact if_neg hne
      · exact if_neg fun hboth => hne (of_decide_eq_true (Bool.and_eq_true_iff.mp hboth).1)
    · intro _
      exact ⟨rfl, rfl⟩
  · rw [PerProcess.get_ofFn]
    intro _
    exact ⟨rfl, rfl⟩

theorem vectors_eigen_of_unwanted {r : Fin n}
    (h : g.active r = true -> (args.get r).wantsVectors = false) :
    ((eigen k g p args).get r).vectors = (args.get r).vectors.block := by
  unfold eigen
  simp only
  split
  · rw [PerProcess.get_ofFn]
    split
    next hr => exact if_neg (by simp [h hr])
    next => rfl
  · rw [PerProcess.get_ofFn]

theorem status_eigen_of_inactive {r : Fin n} (hr : g.active r = false) :
    ((eigen k g p args).get r).status = none := by
  unfold eigen
  simp only
  split
  · rw [PerProcess.get_ofFn, hr]
    rfl
  · rw [PerProcess.get_ofFn]
    exact Grid.agree_of_inactive hr _

theorem values_eigen_of_inactive {r : Fin n} (hr : g.active r = false) :
    ((eigen k g p args).get r).values = (args.get r).values := by
  have hstatus : ((eigen k g p args).get r).status ≠ some 0 := by
    rw [status_eigen_of_inactive hr]
    exact (Option.some_ne_none 0).symm
  exact (buffers_eigen_of_status_ne hstatus).1

end Kernel

end

end BlockCyclic
