import BlockCyclic.Kernel.Condition
import BlockCyclic.Proofs.Grid.Messages
import BlockCyclic.Proofs.Kernel.Factor

/-!
# Norms and condition estimates on a grid

Every process of a grid ends with the same norm, and with the same estimate.
-/

namespace BlockCyclic

/-!
# Norms

The groups along one direction of a grid meet each group across in the same order. What
is combined across is then the same on all processes, since sums along a direction are
common to the group that they are taken over.
-/

variable {n : Nat} {alpha rho : Type}

namespace Grid

variable {g : Grid n}

theorem rowGroup_map_colComm (hopen : g.released = false) (i : Fin g.rows) :
    (g.rowGroup i).map g.colComm =
      (List.finRange g.cols).map fun j => some (g.colGroup j) := by
  unfold rowGroup
  rw [List.map_map]
  apply List.map_congr_left
  intro j _
  have hcol : (⟨(g.processAt i j).val % g.cols, col_lt _⟩ : Fin g.cols) = j :=
    Fin.ext (g.processAt_mod i j)
  rw [Function.comp_apply, colComm_of_active hopen (g.active_processAt i j), hcol]

theorem colGroup_map_rowComm (hopen : g.released = false) (j : Fin g.cols) :
    (g.colGroup j).map g.rowComm =
      (List.finRange g.rows).map fun i => some (g.rowGroup i) := by
  unfold colGroup
  rw [List.map_map]
  apply List.map_congr_left
  intro i _
  have hrow : (⟨(g.processAt i j).val / g.cols, row_lt (g.active_processAt i j)⟩ :
      Fin g.rows) = i := Fin.ext (g.processAt_div i j)
  rw [Function.comp_apply, rowComm_of_active hopen (g.active_processAt i j), hrow]

end Grid

namespace NormArithmetic

variable {a : NormArithmetic alpha rho} {g : Grid n}

/-- What a member of a group across combines depends on the groups along that it meets. -/
theorem get_greatestSum {along across : Communicator n} {r : Fin n} {members : Group n}
    (hr : across r = some members) (partialSums : PerProcess n (Array rho)) :
    (a.greatestSum along across partialSums).get r =
      Communicator.combine a.larger
        (Vector.ofFn fun s => a.greatest
          ((((along s).bind (Communicator.combine (fun x y => Array.zipWith a.add x y)
            partialSums)).getD #[]).toList)) members := by
  unfold greatestSum
  simp only
  rw [Communicator.get_allreduce hr]
  apply Communicator.combine_eq_of_map_eq
  apply List.map_congr_left
  intro s _
  rw [PerProcess.get_map, PerProcess.get_ofFn]
  unfold Communicator.allreduceBuffer Communicator.allreduce
  rw [PerProcess.get_ofFn]

theorem exists_greatestSum {along across : Communicator n}
    (meets : List (Option (Group n)))
    (hacross : forall r, g.active r = true -> exists members,
      across r = some members ∧ r ∈ members ∧ members.map along = meets)
    (partialSums : PerProcess n (Array rho)) :
    exists value, forall r, g.active r = true ->
      (a.greatestSum along across partialSums).get r = some value := by
  have hsame : forall r s, g.active r = true -> g.active s = true ->
      (a.greatestSum along across partialSums).get r =
        (a.greatestSum along across partialSums).get s := by
    intro r s hr hs
    rcases hacross r hr with ⟨members, hmembers, _, hmeets⟩
    rcases hacross s hs with ⟨peers, hpeers, _, hpeersMeet⟩
    rw [get_greatestSum hmembers, get_greatestSum hpeers]
    apply Communicator.combine_eq_of_map_eq
    have hvalues : forall group : Group n, group.map along = meets ->
        (group.map fun s => (Vector.ofFn fun s => a.greatest
          ((((along s).bind (Communicator.combine (fun x y => Array.zipWith a.add x y)
            partialSums)).getD #[]).toList) : PerProcess n rho).get s) =
          meets.map fun m => a.greatest
            (((m.bind (Communicator.combine (fun x y => Array.zipWith a.add x y)
              partialSums)).getD #[]).toList) := by
      intro group hgroup
      rw [← hgroup, List.map_map]
      apply List.map_congr_left
      intro t _
      rw [PerProcess.get_ofFn]
      rfl
    rw [hvalues members hmeets, hvalues peers hpeersMeet]
  rcases hacross g.first g.active_first with ⟨members, hmembers, hself, _⟩
  have hvalue : exists value,
      (a.greatestSum along across partialSums).get g.first = some value := by
    rw [get_greatestSum hmembers]
    exact Communicator.exists_combine _ _ hself
  rcases hvalue with ⟨value, hvalue⟩
  refine ⟨value, ?_⟩
  intro r hr
  rw [hsame r g.first hr g.active_first, hvalue]

variable [Zero alpha]

theorem exists_distributed (hopen : g.released = false) (kind : NormKind)
    (blocks : PerProcess n (Dense alpha)) :
    exists value, forall r, g.active r = true ->
      (a.distributed kind g blocks).get r = some value := by
  cases kind with
  | columnSum =>
      apply exists_greatestSum ((List.finRange g.cols).map fun j => some (g.colGroup j))
      intro r hr
      refine ⟨_, Grid.rowComm_of_active hopen hr, ?_, Grid.rowGroup_map_colComm hopen _⟩
      exact g.mem_rowGroup.mpr ⟨hr, rfl⟩
  | rowSum =>
      apply exists_greatestSum ((List.finRange g.rows).map fun i => some (g.rowGroup i))
      intro r hr
      refine ⟨_, Grid.colComm_of_active hopen hr, ?_, Grid.colGroup_map_rowComm hopen _⟩
      exact g.mem_colGroup.mpr ⟨hr, rfl⟩
  | frobenius =>
      rcases Communicator.exists_combine a.add (blocks.map a.squareSum)
        (g.mem_processes.mpr g.active_first) with ⟨value, hvalue⟩
      refine ⟨a.root value, ?_⟩
      intro r hr
      unfold distributed
      simp only
      rw [PerProcess.get_map,
        Communicator.get_allreduce (Grid.gridComm_of_active hopen hr), hvalue]
      rfl

end NormArithmetic

/-!
# The condition estimate

On legal arguments every process of the grid ends with the estimate of the serial kernel.
A norm that no matrix has is refused, by all processes at once.
-/

variable [Zero alpha] [Zero rho] [Measure rho]

def Measure.isNorm (norm : rho) : Bool :=
  !(Measure.isNaN norm || Measure.isNegative norm)

def ConditionArgs.Roomy (g : Grid n) (r : Fin n) (a : ConditionArgs alpha rho) : Prop :=
  (Kernel.conditionWorkspace g r a.operand.descriptor).1 ≤ a.work ∧
    (Kernel.conditionWorkspace g r a.operand.descriptor).2 ≤ a.iwork

/-- Arguments that pass all checks of the condition estimate but those of the norm. -/
structure ConditionArgs.Legal (g : Grid n) (p : Precision) (d : Distribution)
    (args : PerProcess n (ConditionArgs alpha rho)) : Prop where
  operands : g.Legal p d (args.map ConditionArgs.operand)
  square : d.rows = d.cols
  uplo : forall r, g.active r = true ->
    (Triangle.ofLetter? (args.get r).uplo).isSome = true
  workspace : forall r, g.active r = true -> (args.get r).Roomy g r

section

variable {g : Grid n} {p : Precision} {d : Distribution}
  {args : PerProcess n (ConditionArgs alpha rho)}

omit [Zero alpha] [Zero rho] in
theorem ConditionArgs.check_of_legal (h : ConditionArgs.Legal g p d args)
    {r : Fin n} (hr : g.active r = true) :
    (args.get r).check g p r = if Measure.isNorm (args.get r).norm then 0 else -4 := by
  have hoperand := Grid.checkOperand_of_legal h.operands hr 2 3
  have hshape := Descriptor.square_of_meaning (h.operands.meaning r hr) h.square
  have hwork := h.workspace r hr
  rcases Option.isSome_iff_exists.mp (h.uplo r hr) with ⟨t, huplo⟩
  rw [PerProcess.get_map] at hoperand hshape
  unfold check Measure.isNorm
  rw [huplo]
  simp only [hoperand, hshape, bne_self_eq_false, Bool.false_eq_true, if_false]
  cases Measure.isNaN (args.get r).norm || Measure.isNegative (args.get r).norm with
  | true => rfl
  | false =>
      simp only [Bool.false_eq_true, if_false, Bool.not_false, if_true,
        if_neg (Int.not_lt.mpr hwork.1), if_neg (Int.not_lt.mpr hwork.2)]

namespace Kernel

variable {k : SerialKernels alpha rho}

theorem outcome_condition_of_legal (hopen : g.released = false)
    (h : ConditionArgs.Legal g p d args)
    (hnorm : forall r, g.active r = true -> Measure.isNorm (args.get r).norm = true)
    {r : Fin n} (hr : g.active r = true) :
    ((condition k g p args).get r).outcome =
      some (k.condition p
        ((args.get g.first).upperFactor
          (g.assembleOperands d (args.map ConditionArgs.operand)))
        (args.get g.first).norm) := by
  have hcleared : Grid.cleared
      (g.agree (Vector.ofFn fun r => (args.get r).check g p r)) = true := by
    apply Grid.cleared_of_zero hopen
    intro s hs
    rw [PerProcess.get_ofFn, ConditionArgs.check_of_legal h hs, if_pos (hnorm s hs)]
  unfold condition
  simp only [hcleared, if_true, PerProcess.get_ofFn, hr,
    Grid.get_shareFromRoot hopen hr,
    Grid.get_gatherOperands hopen h.operands g.active_first]

/-- One process with a norm that no matrix has is enough for all to refuse. -/
theorem outcome_condition_of_refused (hopen : g.released = false)
    (h : ConditionArgs.Legal g p d args) {s : Fin n} (hs : g.active s = true)
    (hnorm : Measure.isNorm (args.get s).norm = false) {r : Fin n}
    (hr : g.active r = true) :
    ((condition k g p args).get r).outcome = some (0, -4) := by
  -- Every status is 0 or -4, so that -4 is the least once a process has it.
  rcases Grid.exists_agreed hopen (Vector.ofFn fun r => (args.get r).check g p r) with
    ⟨agreed, hagreed, hleast, t, ht, hattained⟩
  have hbound := hleast s hs
  rw [PerProcess.get_ofFn, ConditionArgs.check_of_legal h hs, hnorm] at hbound
  have hminus : agreed = -4 := by
    rw [PerProcess.get_ofFn, ConditionArgs.check_of_legal h ht] at hattained
    cases htnorm : Measure.isNorm (args.get t).norm with
    | true =>
        rw [htnorm] at hattained
        rw [← hattained] at hbound
        exact absurd hbound (by decide)
    | false =>
        rw [htnorm] at hattained
        exact hattained.symm
  subst hminus
  have hcleared : Grid.cleared
      (g.agree (Vector.ofFn fun r => (args.get r).check g p r)) = false :=
    Grid.not_cleared_of_agreed (hagreed g.first g.active_first) (by decide)
  unfold condition
  simp only [hcleared, Bool.false_eq_true, if_false, PerProcess.get_ofFn, hagreed r hr,
    Option.map_some]

theorem exists_outcome_condition (hopen : g.released = false) :
    exists outcome, forall r, g.active r = true ->
      ((condition k g p args).get r).outcome = some outcome := by
  rcases Grid.exists_agreed hopen (Vector.ofFn fun r => (args.get r).check g p r) with
    ⟨agreed, hagreed, _, _⟩
  unfold condition
  simp only
  split
  · apply Exists.intro
    intro r hr
    rw [PerProcess.get_ofFn, if_pos hr, Grid.get_shareFromRoot hopen hr]
  · apply Exists.intro (0, agreed)
    intro r hr
    rw [PerProcess.get_ofFn, hagreed r hr]
    rfl

end Kernel

end

end BlockCyclic
