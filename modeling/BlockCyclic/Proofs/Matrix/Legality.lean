import BlockCyclic.Proofs.Kernel.Acceptance
import BlockCyclic.Proofs.Matrix.Lifecycle

/-!
# Arguments that are always in order

Every kernel computes from the descriptor what shape a local block should have, and checks
it. A matrix computes the same shapes once, and whatever is done to it afterwards keeps its
blocks at them. Squareness comes with the property or the state that an operation asks for,
and workspaces are passed just as large as they are demanded. So no operation on a matrix
ever fails for an illegal argument, but for the norm that a caller brings along.
-/

namespace BlockCyclic

variable {n : Nat} {delta alpha rho beta gamma : Type}

/-!
# Blocks keep their shapes
-/

theorem Dense.Sized.of_same {x y : Dense alpha} {shape : Nat × Nat} (h : x.Sized shape)
    (hsame : y.rows = x.rows ∧ y.cols = x.cols) : y.Sized shape :=
  ⟨hsame.1.trans h.1, hsame.2.trans h.2⟩

theorem Sheet.sized_stretch? [Zero alpha] {enter : delta -> alpha} {s : Sheet delta}
    {rows cols : Nat} {x : Dense alpha} (h : s.stretch? enter rows cols = some x) :
    x.Sized (rows, cols) := by
  unfold stretch? at h
  split at h
  · cases h
    exact ⟨rfl, rfl⟩
  · split at h
    · cases h
      exact ⟨rfl, rfl⟩
    · cases h
  · split at h
    · cases h
      exact ⟨rfl, rfl⟩
    · cases h
  · cases h

namespace Reply

variable {p : Part alpha} {shape : Nat × Nat}

def Sized (shape : Nat × Nat) (reply : Reply alpha beta) : Prop :=
  reply.part.block.Sized shape

theorem sized_guarded (hp : p.block.Sized shape) (refusal : Except Failure Unit)
    {reply : Reply alpha beta} (h : reply.Sized shape) :
    (guarded p refusal reply).Sized shape := by
  cases refusal with
  | ok _ => exact h
  | error failure => exact hp

theorem sized_mapped {replies : Replies n alpha beta} {r : Fin n}
    (h : (replies.get r).Sized shape) (f : beta -> gamma) :
    ((replies.map (Reply.map f)).get r).Sized shape := by
  rw [PerProcess.get_map]
  exact h

end Reply

namespace Layout

variable [Zero alpha] {l : Layout n} {r : Fin n} {x : Dense alpha} {shape : Nat × Nat}

theorem sized_clearAbove (h : x.Sized shape) : (l.clearAbove r x).Sized shape := by
  unfold clearAbove
  split
  · exact h
  · exact h

theorem sized_mergeAbove (h : x.Sized shape) (other : Dense alpha) :
    (l.mergeAbove r x other).Sized shape := by
  unfold mergeAbove
  split
  · exact h
  · exact h

end Layout

/-- Whatever the arguments are, eigenvectors have the shape of the block passed for them. -/
theorem Kernel.sameShape_eigen [Zero alpha] {k : SerialKernels alpha rho} {g : Grid n}
    {p : Precision} {args : PerProcess n (EigenArgs alpha)} (r : Fin n) :
    ((eigen k g p args).get r).vectors.rows = (args.get r).vectors.block.rows ∧
      ((eigen k g p args).get r).vectors.cols = (args.get r).vectors.block.cols := by
  unfold eigen
  simp only
  split
  · rw [PerProcess.get_ofFn]
    split
    · simp only
      split
      · have hshape := g.gridComm.sameShape_scatter g.shape 0
          (fun r => ((args.map EigenArgs.vectors).get r).descriptor.blockSizes)
          ((solveEigen k g p args).map fun s => s.map Spectrum.vectors)
          ((args.map EigenArgs.vectors).map Operand.block) r
        rw [PerProcess.get_map, PerProcess.get_map] at hshape
        exact hshape
      · exact ⟨rfl, rfl⟩
    · exact ⟨rfl, rfl⟩
  · rw [PerProcess.get_ofFn]
    exact ⟨rfl, rfl⟩

namespace DistributedMatrix

section

variable {a : DistributedMatrix n alpha} (h : a.Shaped) (r : Fin n)

include h

theorem sized_setProperty (choice : PropertyChoice) :
    ((a.setProperty choice).get r).Sized (a.layout.localShape r) := by
  unfold setProperty setPropertyOn
  rw [PerProcess.get_ofFn]
  cases a.layout.demandProperty choice with
  | ok property => exact h r
  | error failure => exact h r

theorem sized_setElement [Zero alpha] (i j : Subscript) (value : alpha) :
    (a.setElement r i j value).Sized (a.layout.localShape r) :=
  (h r).of_same (setElement_keeps a r i j value).2

variable [Zero alpha] {numerics : Numerics delta alpha rho}

theorem sized_assign (x : PerProcess n (Option (Sheet delta))) (choice : PropertyChoice) :
    ((a.assign numerics x choice).get r).Sized (a.layout.localShape r) := by
  unfold assign
  simp only [PerProcess.get_ofFn]
  cases a.layout.propertyFrom choice with
  | error failure => exact h r
  | ok property =>
      cases (a.verdicts x).get r with
      | false => exact h r
      | true =>
          apply (h r).of_same
          have hsame := a.layout.grid.gridComm.sameShape_scatter a.layout.grid.shape 0
            (fun _ => a.layout.blockSizes) (x.map fun s => s.map fun s =>
              s.toDense (numerics.enter a.layout.precision) a.layout.rows a.layout.cols)
            a.blocks r
          rw [get_blocks_eq] at hsame
          exact hsame

theorem sized_evaluated {f : Region -> Except Failure (Sheet delta)} {block : Dense alpha}
    (hblock : a.evaluated numerics f r = .ok block) :
    block.Sized (a.layout.localShape r) := by
  unfold evaluated at hblock
  simp only at hblock
  split at hblock
  · rcases Except.bind_eq_ok.mp hblock with ⟨values, _, hstretch⟩
    split at hstretch
    next x hx =>
      cases hstretch
      exact Sheet.sized_stretch? hx
    next => cases hstretch
  · cases hblock
    exact h r

theorem sized_fill (f : Region -> Except Failure (Sheet delta)) (choice : PropertyChoice) :
    ((a.fill numerics f choice).get r).Sized (a.layout.localShape r) := by
  unfold fill fillOn
  rw [PerProcess.get_ofFn]
  cases a.layout.propertyFrom choice with
  | error failure => exact h r
  | ok property =>
      cases hblock : a.evaluated numerics f r with
      | error failure => exact h r
      | ok block => exact sized_evaluated h r hblock

theorem sized_copyTo (everywhere : Bool) :
    ((a.copyTo everywhere).get r).Sized (a.layout.localShape r) := by
  unfold copyTo
  rw [PerProcess.get_ofFn]
  exact Reply.sized_guarded (h r) _ (h r)

theorem sized_onTriangle (routine : String)
    (serial : Triangle -> Dense alpha -> Factored alpha) :
    ((Kernel.onTriangle routine serial a.layout.grid a.layout.precision
      (a.lowerArgs a.blocks)).get r).block.Sized (a.layout.localShape r) := by
  apply (h r).of_same
  have hsame : ((Kernel.onTriangle routine serial a.layout.grid a.layout.precision
      (a.lowerArgs a.blocks)).get r).block.rows = _ ∧ _ :=
    Kernel.sameShape_onTriangle routine r
  rw [block_lowerArgs, get_blocks_eq] at hsame
  exact hsame

theorem sized_cholesky :
    ((a.cholesky numerics).get r).Sized (a.layout.localShape r) := by
  have hblock := sized_onTriangle h r "potrf" (numerics.serial.factor a.layout.precision)
  unfold cholesky
  rw [PerProcess.get_ofFn]
  apply Reply.sized_guarded (h r)
  split
  · exact hblock
  · exact Layout.sized_clearAbove hblock

omit h in
/-- What an inverse takes over from its transpose does not change the shape of a block. -/
theorem sized_merged {block : Dense alpha} (hblock : block.Sized (a.layout.localShape r))
    (turn : KernelResult alpha) :
    (if turn.status = some 0 then a.layout.mergeAbove r block turn.block else block).Sized
      (a.layout.localShape r) := by
  split
  · exact Layout.sized_mergeAbove hblock _
  · exact hblock

theorem sized_invert :
    ((a.invert numerics).get r).Sized (a.layout.localShape r) := by
  have hblock := sized_onTriangle h r "potri" (numerics.serial.invert a.layout.precision)
  unfold invert
  rw [PerProcess.get_ofFn, PerProcess.get_map]
  apply Reply.sized_guarded (h r)
  split
  · exact hblock
  · split
    · exact sized_merged r hblock _
    · exact sized_merged r hblock _

theorem sized_eigen (vectors : Bool) :
    ((a.eigen numerics vectors).get r).Sized (a.layout.localShape r) := by
  unfold eigen
  rw [PerProcess.get_ofFn]
  apply Reply.sized_guarded (h r)
  split
  next => exact h r
  next =>
    cases vectors with
    | false => exact h r
    | true =>
        cases a.layout.grid.active r with
        | false => exact h r
        | true =>
            have hsame : ((Kernel.eigen numerics.serial a.layout.grid a.layout.precision
                (a.eigenArgs numerics.serial.eigenWorkspace true)).get r).vectors.rows = _ ∧ _ :=
              Kernel.sameShape_eigen r
            have htarget : ((a.eigenArgs numerics.serial.eigenWorkspace true).get
                r).vectors.block.Sized (a.layout.localShape r) := by
              unfold eigenArgs
              rw [PerProcess.get_ofFn]
              exact ⟨rfl, rfl⟩
            exact htarget.of_same hsame

theorem sized_condition [Zero rho] [Measure rho] (norm : PerProcess n rho) :
    ((a.condition numerics norm).get r).Sized (a.layout.localShape r) := by
  unfold condition
  rw [PerProcess.get_ofFn]
  apply Reply.sized_guarded (h r)
  split
  · exact h r
  · exact h r

theorem sized_norm (kind : NormKind) :
    ((a.norm numerics kind).get r).Sized (a.layout.localShape r) := by
  unfold norm
  rw [PerProcess.get_ofFn]
  exact Reply.sized_guarded (h r) _ (h r)

end

section

variable [Zero alpha] [Zero rho] [Measure rho] (numerics : Numerics delta alpha rho)

theorem shaped_next {a : DistributedMatrix n alpha} (h : a.Shaped)
    (call : Call n delta alpha rho) : (a.next numerics call).Shaped := by
  intro r
  rw [part_next]
  cases call with
  | setProperty choice => exact Reply.sized_mapped (sized_setProperty h r choice) _
  | assign x choice => exact Reply.sized_mapped (sized_assign h r x choice) _
  | fill f choice => exact Reply.sized_mapped (sized_fill h r f choice) _
  | setElement writers i j value =>
      unfold perform
      simp only
      rw [PerProcess.get_ofFn]
      cases writers r with
      | true => exact sized_setElement h r i j value
      | false => exact h r
  | copyTo everywhere => exact Reply.sized_mapped (sized_copyTo h r everywhere) _
  | cholesky => exact Reply.sized_mapped (sized_cholesky h r) _
  | invert => exact Reply.sized_mapped (sized_invert h r) _
  | eigen vectors => exact Reply.sized_mapped (sized_eigen h r vectors) _
  | condition norm => exact Reply.sized_mapped (sized_condition h r norm) _
  | norm kind => exact Reply.sized_mapped (sized_norm h r kind) _

theorem shaped_run {a : DistributedMatrix n alpha} (h : a.Shaped)
    (program : List (Call n delta alpha rho)) : (a.run numerics program).Shaped := by
  induction program generalizing a with
  | nil => exact h
  | cons call rest ih => exact ih (shaped_next numerics h call)

theorem shaped_blank (l : Layout n) (property : Property) :
    (blank l property : DistributedMatrix n alpha).Shaped := by
  intro r
  unfold part blank
  rw [PerProcess.get_ofFn]
  exact ⟨rfl, rfl⟩

end

/-!
# Checks
-/

section

variable {a : DistributedMatrix n alpha} (h : a.Shaped) {r : Fin n}
  (hr : a.layout.grid.active r = true)

include h hr

theorem blockFits_operand :
    a.layout.grid.blockFits a.layout.precision r (a.operand r) = true := by
  have hoperands : forall s, (Vector.ofFn a.operand : PerProcess n _).get s = a.operand s :=
    PerProcess.get_ofFn a.operand
  have hfits := (legal_operand h hoperands).fitting r hr
  rwa [hoperands r] at hfits

variable [Zero alpha] (hsquare : a.layout.rows = a.layout.cols)

include hsquare

theorem check_lowerArgs :
    ((a.lowerArgs a.blocks).get r).check a.layout.grid a.layout.precision r = 0 :=
  TriangleArgs.check_of_legal (legal_lowerArgs (pieces_of_shaped h))
    (congrArg Int.ofNat hsquare) hr (uplo_lowerArgs a a.blocks r)

theorem check_eigenArgs (query : WorkspaceQuery) (vectors : Bool) :
    ((a.eigenArgs query vectors).get r).check query a.layout.grid a.layout.precision r = 0 :=
  EigenArgs.check_of_legal (legal_eigenArgs query h hsquare vectors) hr

omit [Zero alpha] in
theorem check_conditionArgs [Measure rho] (norm : PerProcess n rho) :
    ((a.conditionArgs norm).get r).check a.layout.grid a.layout.precision r =
      if Measure.isNorm (norm.get r) then 0 else -4 := by
  have hcheck := ConditionArgs.check_of_legal (legal_conditionArgs h hsquare norm) hr
  rwa [norm_conditionArgs] at hcheck

end

/-!
# Statuses
-/

def inverted [Zero alpha] (numerics : Numerics delta alpha rho) (a : DistributedMatrix n alpha) :
    PerProcess n (Dense alpha) :=
  (Kernel.invert numerics.serial a.layout.grid a.layout.precision
    (a.lowerArgs a.blocks)).map KernelResult.block

section

variable [Zero alpha] {a : DistributedMatrix n alpha} (numerics : Numerics delta alpha rho)
  (h : a.Shaped)

include h

theorem pieces_inverted (r : Fin n) :
    (a.inverted numerics).get r = a.layout.piece
      (a.layout.grid.assemble a.layout.distribution (a.inverted numerics)) r := by
  have hsized : forall s, ((a.inverted numerics).get s).Sized (a.layout.localShape s) := by
    intro s
    unfold inverted
    rw [PerProcess.get_map]
    exact sized_onTriangle h s "potri" (numerics.serial.invert a.layout.precision)
  exact Layout.eq_piece_assemble (fun s => (hsized s).1) (fun s => (hsized s).2) r

variable (hopen : a.layout.grid.released = false) (hsquare : a.layout.rows = a.layout.cols)

include hopen hsquare

/-- The transpose within an inversion succeeds, whatever the kernel before it has made. -/
theorem status_transpose_inverted {r : Fin n} (hr : a.layout.grid.active r = true) :
    ((Kernel.transpose a.layout.grid a.layout.precision
      (a.transposeArgs (a.inverted numerics))).get r).status = some 0 :=
  status_transpose (pieces_inverted numerics h) hopen hsquare hr

theorem shared_turned (r : Fin n) :
    (a.layout.shareStatuses ((Kernel.transpose a.layout.grid a.layout.precision
      (a.transposeArgs (a.inverted numerics))).map KernelResult.status)).get r = 0 :=
  status_turned (pieces_inverted numerics h) hopen hsquare r

theorem shared_factor (r : Fin n) :
    (a.layout.shareStatuses ((Kernel.factor numerics.serial a.layout.grid
      a.layout.precision (a.lowerArgs a.blocks)).map KernelResult.status)).get r =
        (numerics.serial.factor a.layout.precision .lower a.whole).status :=
  status_onTriangle hopen "potrf" (pieces_of_shaped h) a.rows_whole a.cols_whole hsquare rfl r

theorem shared_invert (r : Fin n) :
    (a.layout.shareStatuses ((Kernel.invert numerics.serial a.layout.grid
      a.layout.precision (a.lowerArgs a.blocks)).map KernelResult.status)).get r =
        (numerics.serial.invert a.layout.precision .lower a.whole).status :=
  status_onTriangle hopen "potri" (pieces_of_shaped h) a.rows_whole a.cols_whole hsquare rfl r

end

end DistributedMatrix

/-!
# Failures
-/

namespace Replies

theorem result_mapped (replies : Replies n alpha beta) (f : beta -> gamma) (r : Fin n) :
    ((replies.map (Reply.map f)).get r).result = (replies.get r).result.map f := by
  rw [PerProcess.get_map]
  rfl

theorem failure_of_mapped {replies : Replies n alpha beta} {f : beta -> gamma} {r : Fin n}
    {failure : Failure} (h : ((replies.map (Reply.map f)).get r).result = .error failure) :
    (replies.get r).result = .error failure := by
  rw [PerProcess.get_map] at h
  exact Reply.failure_of_map h

end Replies

theorem Measure.isNorm_eq_false [Measure rho] {norm : rho} :
    isNorm norm = false ↔ isNaN norm = true ∨ isNegative norm = true := by
  unfold isNorm
  rw [Bool.not_eq_false', Bool.or_eq_true]

theorem Reply.numerical_of_guarded {p : Part alpha} {refusal : Except Failure Unit}
    {reply : Reply alpha beta} {fault : KernelFailure}
    (hrefusal : refusal ≠ .error (.numerical fault))
    (h : (guarded p refusal reply).result = .error (.numerical fault)) :
    refusal = .ok () ∧ reply.result = .error (.numerical fault) := by
  cases refusal with
  | ok _ => exact ⟨rfl, h⟩
  | error failure =>
      cases h
      exact absurd rfl hrefusal

theorem Part.requireState_ne_numerical (p : Part alpha) (operation : Operation)
    (fault : KernelFailure) : p.requireState operation ≠ .error (.numerical fault) := by
  unfold requireState
  split
  · intro h
    cases h
  · intro h
    cases h

theorem Part.requireSymmetric_ne_numerical (p : Part alpha) (operation : Operation)
    (fault : KernelFailure) : p.requireSymmetric operation ≠ .error (.numerical fault) := by
  intro h
  unfold requireSymmetric requireProperty at h
  cases hstate : p.requireState operation with
  | error failure =>
      rw [hstate] at h
      cases h
      exact requireState_ne_numerical p operation fault hstate
  | ok _ =>
      rw [hstate] at h
      change (if p.property = .symmetric then _ else _) = _ at h
      split at h
      · cases h
      · cases h

theorem ConditionArgs.shape_upperFactor [Zero alpha] (args : ConditionArgs alpha rho)
    {x : Dense alpha} (hsquare : x.rows = x.cols) :
    (args.upperFactor x).rows = x.rows ∧
      (args.upperFactor x).rows = (args.upperFactor x).cols := by
  unfold upperFactor
  split
  · exact ⟨hsquare.symm, hsquare.symm⟩
  · exact ⟨rfl, hsquare⟩

namespace DistributedMatrix

theorem result_condition_of_outcome [Zero alpha] [Zero rho] [Measure rho]
    {a : DistributedMatrix n alpha} (numerics : Numerics delta alpha rho)
    (hopen : a.layout.grid.released = false) {r : Fin n}
    (hallowed : (a.part r).requireState .condition = .ok ()) {norm : PerProcess n rho}
    {outcome : rho × Int}
    (houtcome : forall s, a.layout.grid.active s = true ->
      ((Kernel.condition numerics.serial a.layout.grid a.layout.precision
        (a.conditionArgs norm)).get s).outcome = some outcome) :
    ((a.condition numerics norm).get r).result =
      if outcome.2 ≠ 0 then .error (.numerical ⟨"pocon", outcome.2⟩) else .ok outcome.1 := by
  have hshared : (a.layout.grid.sendToInactive ((Kernel.condition numerics.serial
      a.layout.grid a.layout.precision (a.conditionArgs norm)).map
        fun c => c.outcome.getD (0, 0))).get r = outcome := by
    apply Grid.sendToInactive_of_common hopen
    intro s hs
    rw [PerProcess.get_map, houtcome s hs]
    rfl
  unfold condition
  rw [PerProcess.get_ofFn, hshared]
  show (Reply.guarded _ ((a.part r).requireState .condition) _).result = _
  rw [hallowed]
  show (if outcome.2 ≠ 0 then _ else _ : Reply alpha rho).result = _
  split
  · rfl
  · rfl

section

variable [Zero alpha] [Zero rho] [Measure rho] {a : DistributedMatrix n alpha}
  {numerics : Numerics delta alpha rho} (hopen : a.layout.grid.released = false)
  (h : a.Shaped) (haccepts : numerics.serial.AcceptsLegal) {r : Fin n}
  (hsuits : a.layout.Suits (a.part r).meaning)

include hopen h haccepts hsuits

omit [Zero rho] in
theorem fault_cholesky {fault : KernelFailure}
    (hfault : ((a.cholesky numerics).get r).result = .error (.numerical fault)) :
    0 < fault.status ∧ fault.routine ≠ "tran" := by
  unfold cholesky at hfault
  rw [PerProcess.get_ofFn] at hfault
  rcases Reply.numerical_of_guarded (Part.requireSymmetric_ne_numerical _ _ _) hfault with
    ⟨hallowed, hresult⟩
  have hsquare := hsuits.present (Part.symmetric_of_requireSymmetric hallowed)
  have hstatus := haccepts.factor a.layout.precision .lower a.whole a.rows_whole_pos
    (a.square_whole hsquare)
  rw [shared_factor numerics h hopen hsquare] at hresult
  split at hresult
  next hne =>
    cases hresult
    exact ⟨lt_of_le_of_ne hstatus (Ne.symm hne), show "potrf" ≠ "tran" by decide⟩
  next => cases hresult

omit [Zero rho] in
theorem fault_invert {fault : KernelFailure}
    (hfault : ((a.invert numerics).get r).result = .error (.numerical fault)) :
    0 < fault.status ∧ fault.routine ≠ "tran" := by
  unfold invert at hfault
  rw [PerProcess.get_ofFn] at hfault
  rcases Reply.numerical_of_guarded (Part.requireState_ne_numerical _ _ _) hfault with
    ⟨hallowed, hresult⟩
  have hsquare := hsuits.solved (Or.inl (Part.cholesky_of_requireState hallowed rfl))
  have hstatus := haccepts.invert a.layout.precision .lower a.whole a.rows_whole_pos
    (a.square_whole hsquare)
  have hturned := shared_turned numerics h hopen hsquare r
  unfold inverted at hturned
  rw [shared_invert numerics h hopen hsquare, hturned] at hresult
  split at hresult
  next hne =>
    cases hresult
    exact ⟨lt_of_le_of_ne hstatus (Ne.symm hne), show "potri" ≠ "tran" by decide⟩
  next =>
    split at hresult
    next hne => exact absurd rfl hne
    next => cases hresult

omit [Zero rho] in
theorem fault_eigen {vectors : Bool} {fault : KernelFailure}
    (hfault : ((a.eigen numerics vectors).get r).result = .error (.numerical fault)) :
    0 < fault.status ∧ fault.routine ≠ "tran" := by
  unfold eigen at hfault
  rw [PerProcess.get_ofFn] at hfault
  rcases Reply.numerical_of_guarded (Part.requireSymmetric_ne_numerical _ _ _) hfault with
    ⟨hallowed, hresult⟩
  have hsquare := hsuits.present (Part.symmetric_of_requireSymmetric hallowed)
  have hstatus := haccepts.eigen a.layout.precision vectors .lower a.whole a.rows_whole_pos
    (a.square_whole hsquare)
  rw [status_eigen hopen h hsquare rfl] at hresult
  split at hresult
  next hne =>
    cases hresult
    exact ⟨lt_of_le_of_ne hstatus (Ne.symm hne), show "syev" ≠ "tran" by decide⟩
  next => cases hresult

/-- A factor has a condition estimate exactly for norms that the grid accepts. -/
theorem result_condition (hstate : (a.part r).state = .cholesky) (norm : PerProcess n rho) :
    (exists s, a.layout.grid.active s = true ∧ Measure.isNorm (norm.get s) = false) ∧
        ((a.condition numerics norm).get r).result = .error (.numerical ⟨"pocon", -4⟩) ∨
      (forall s, a.layout.grid.active s = true -> Measure.isNorm (norm.get s) = true) ∧
        exists value, ((a.condition numerics norm).get r).result = .ok value := by
  have hsquare := hsuits.solved (Or.inl hstate)
  have hlegal := legal_conditionArgs h hsquare norm
  have hallowed : (a.part r).requireState .condition = .ok () := by
    unfold Part.requireState
    rw [hstate]
    rfl
  by_cases hfault : exists s, a.layout.grid.active s = true ∧
      Measure.isNorm (norm.get s) = false
  · rcases hfault with ⟨s, hs, hnorm⟩
    refine Or.inl ⟨⟨s, hs, hnorm⟩, ?_⟩
    rw [← norm_conditionArgs a norm s] at hnorm
    exact result_condition_of_outcome numerics hopen hallowed fun t ht =>
      Kernel.outcome_condition_of_refused hopen hlegal hs hnorm ht
  · have hnorms : forall s, a.layout.grid.active s = true ->
        Measure.isNorm (norm.get s) = true := by
      intro s hs
      cases hnorm : Measure.isNorm (norm.get s) with
      | true => rfl
      | false => exact absurd ⟨s, hs, hnorm⟩ hfault
    refine Or.inr ⟨hnorms, ?_⟩
    have hlegalNorms : forall s, a.layout.grid.active s = true ->
        Measure.isNorm ((a.conditionArgs norm).get s).norm = true := by
      intro s hs
      rw [norm_conditionArgs]
      exact hnorms s hs
    have houtcome := result_condition_of_outcome numerics hopen hallowed fun t ht =>
      Kernel.outcome_condition_of_legal hopen hlegal hlegalNorms ht
    rw [assembleOperands_operand (operand_conditionArgs a norm)] at houtcome
    have hshape := ConditionArgs.shape_upperFactor
      ((a.conditionArgs norm).get a.layout.grid.first) (a.square_whole hsquare)
    have hzero := haccepts.condition a.layout.precision _ _ (hshape.1 ▸ a.rows_whole_pos)
      hshape.2 (hlegalNorms _ a.layout.grid.active_first)
    rw [if_neg (not_not_intro hzero)] at houtcome
    exact ⟨_, houtcome⟩

theorem failure_condition (hstate : (a.part r).state = .cholesky) (norm : PerProcess n rho)
    {failure : Failure}
    (hfailure : ((a.condition numerics norm).get r).result = .error failure) :
    failure = .numerical ⟨"pocon", -4⟩ := by
  rcases result_condition hopen h haccepts hsuits hstate norm with
    ⟨_, hresult⟩ | ⟨_, value, hresult⟩
  · rw [hresult] at hfailure
    cases hfailure
    rfl
  · rw [hresult] at hfailure
    cases hfailure

theorem refused_condition_iff (hstate : (a.part r).state = .cholesky)
    (norm : PerProcess n rho) :
    (exists fault, ((a.condition numerics norm).get r).result = .error (.numerical fault)) ↔
      exists s, a.layout.grid.active s = true ∧
        (Measure.isNaN (norm.get s) = true ∨ Measure.isNegative (norm.get s) = true) := by
  rcases result_condition hopen h haccepts hsuits hstate norm with
    ⟨⟨s, hs, hnorm⟩, hresult⟩ | ⟨hnorms, value, hresult⟩
  · exact ⟨fun _ => ⟨s, hs, Measure.isNorm_eq_false.mp hnorm⟩, fun _ => ⟨_, hresult⟩⟩
  · constructor
    · rintro ⟨fault, hfault⟩
      rw [hresult] at hfault
      cases hfault
    · rintro ⟨s, hs, hnorm⟩
      have hrefused := Measure.isNorm_eq_false.mpr hnorm
      rw [hnorms s hs] at hrefused
      cases hrefused

end

variable [Zero alpha] [Zero rho] [Measure rho]

/--
After any program, on kernels that accept legal arguments: blocks fit their descriptors on
the grid, and where a process may factor, invert, or ask for a condition, all processes of
the grid pass all checks but that of the norm. Factorization, inversion and eigensolver fail
with positive statuses, and never for the transpose. A condition estimate fails for the norm
of any process of the grid, with one status everywhere, and for nothing else.
-/
theorem arguments_stay_legal (numerics : Numerics delta alpha rho)
    (haccepts : numerics.serial.AcceptsLegal) {q : MatrixRequest} {settings : Settings}
    {grid : Grid n} (hopen : grid.released = false) {shape : Argument}
    {made : Created n alpha} (hmade : q.create settings grid shape = .ok made)
    (program : List (Call n delta alpha rho)) :
    let a := made.matrix.run numerics program
    let l := a.layout
    (forall r, l.grid.active r = true ->
      l.grid.accepts r (l.descriptor r) = true ∧
      l.grid.blockFits l.precision r (a.operand r) = true) ∧
    ((exists s, (a.part s).property = .symmetric ∨ (a.part s).state = .cholesky) ->
      forall r, l.grid.active r = true ->
        ((a.lowerArgs a.blocks).get r).check l.grid l.precision r = 0 ∧
        (forall vectors,
          ((a.eigenArgs numerics.serial.eigenWorkspace vectors).get r).check
            numerics.serial.eigenWorkspace l.grid l.precision r = 0) ∧
        (forall norm : PerProcess n rho,
          ((a.conditionArgs norm).get r).check l.grid l.precision r =
            if Measure.isNaN (norm.get r) || Measure.isNegative (norm.get r) then -4 else 0) ∧
        ((Kernel.transpose l.grid l.precision (a.transposeArgs
          ((Kernel.invert numerics.serial l.grid l.precision (a.lowerArgs a.blocks)).map
            KernelResult.block))).get r).status = some 0) ∧
    (forall call : Call n delta alpha rho,
      call = .cholesky ∨ call = .invert ∨ call = .eigen false ∨ call = .eigen true ->
      forall r fault, ((a.perform numerics call).get r).result = .error (.numerical fault) ->
        0 < fault.status ∧ fault.routine ≠ "tran") ∧
    (forall (norm : PerProcess n rho) r, (a.part r).state = .cholesky ->
      let result := ((a.perform numerics (.condition norm)).get r).result
      ((exists fault, result = .error (.numerical fault)) ↔
        exists s, l.grid.active s = true ∧
          (Measure.isNaN (norm.get s) = true ∨ Measure.isNegative (norm.get s) = true)) ∧
      (forall failure, result = .error failure -> failure = .numerical ⟨"pocon", -4⟩)) := by
  intro a l
  have hlayout : l = made.matrix.layout := layout_run made.matrix program
  rcases MatrixRequest.granted_of_create hmade with ⟨hgrid, initial, _, hallowed, hblank⟩
  have hopenGrid : l.grid.released = false := by rw [hlayout, hgrid, hopen]
  have hshaped : a.Shaped := by
    apply shaped_run
    rw [hblank]
    exact shaped_blank _ initial
  have hsuits : forall r, l.Suits (a.part r).meaning :=
    fun r => suits_program numerics hmade program r
  refine ⟨?_, ?_, ?_, ?_⟩
  · intro r hr
    exact ⟨l.accepts_descriptor r, blockFits_operand hshaped hr⟩
  · rintro ⟨s, hs⟩ r hr
    have hsquare : l.rows = l.cols := by
      rcases hs with hproperty | hstate
      · exact (hsuits s).present hproperty
      · exact (hsuits s).solved (Or.inl hstate)
    refine ⟨check_lowerArgs hshaped hr hsquare, check_eigenArgs hshaped hr hsquare _,
      ?_, ?_⟩
    · intro norm
      rw [check_conditionArgs hshaped hr hsquare norm]
      unfold Measure.isNorm
      cases Measure.isNaN (norm.get r) || Measure.isNegative (norm.get r) with
      | true => rfl
      | false => rfl
    · exact status_transpose_inverted numerics hshaped hopenGrid hsquare hr
  · intro call hcall r fault hfault
    rcases hcall with rfl | rfl | rfl | rfl
    · exact fault_cholesky hopenGrid hshaped haccepts (hsuits r)
        (Replies.failure_of_mapped hfault)
    · exact fault_invert hopenGrid hshaped haccepts (hsuits r)
        (Replies.failure_of_mapped hfault)
    · exact fault_eigen hopenGrid hshaped haccepts (hsuits r)
        (Replies.failure_of_mapped hfault)
    · exact fault_eigen hopenGrid hshaped haccepts (hsuits r)
        (Replies.failure_of_mapped hfault)
  · intro norm r hstate result
    have hmapped : result = ((a.condition numerics norm).get r).result.map .measure :=
      Replies.result_mapped _ _ r
    constructor
    · rw [← refused_condition_iff hopenGrid hshaped haccepts (hsuits r) hstate norm]
      constructor
      · rintro ⟨fault, hfault⟩
        exact ⟨fault, Replies.failure_of_mapped hfault⟩
      · rintro ⟨fault, hfault⟩
        rw [hmapped, hfault]
        exact ⟨fault, rfl⟩
    · intro failure hfailure
      exact failure_condition hopenGrid hshaped haccepts (hsuits r) hstate norm
        (Replies.failure_of_mapped hfailure)

/-- The process that is left out hears of a norm that the grid refuses. -/
theorem arguments_stay_legal_negative_norm :
    let grid : Grid 2 := ⟨1, 1, by decide, by decide, by decide, fun _ => 0, false⟩
    let q : MatrixRequest := ⟨.whole 1, .absent, .given .symmetric, .absent⟩
    let made : Created 2 Int :=
      ⟨.blank ⟨grid, 1, 1, 1, 1, .double, by decide, by decide, by decide, by decide⟩ .symmetric,
        .serialOnRoot⟩
    let numerics : Numerics Int Int Int := { exactNumerics with serial := unitKernels }
    let x : Sheet Int := ⟨[1, 1], .ofPrecision .double, #[1]⟩
    let load : Call 2 Int Int Int :=
      .assign (Vector.ofFn fun r => if r.val = 0 then some x else none) .unspecified
    let a := made.matrix.run numerics [load, .cholesky]
    q.create .standard grid (.whole 1) = .ok made ∧
    grid.blockFits .double 0 (a.operand 0) = true ∧
    (a.part 1).state = .cholesky ∧
    ((a.perform numerics (.condition #v[-1, 1])).get 1).result =
      .error (.numerical ⟨"pocon", -4⟩) := by
  intro grid q made numerics x load a
  have hmade : q.create .standard grid (.whole 1) = .ok made := rfl
  let b := made.matrix.next numerics load
  have hallowed : (b.part 1).requireSymmetric .cholesky = .ok () := by
    have hstate : (b.part 1).state = .matrix := by decide +kernel
    have hproperty : (b.part 1).property = .symmetric := by decide +kernel
    unfold Part.requireSymmetric Part.requireState Part.requireProperty
    rw [hstate, hproperty]
    rfl
  have hshared : (b.layout.shareStatuses ((Kernel.factor numerics.serial b.layout.grid
      b.layout.precision (b.lowerArgs b.blocks)).map KernelResult.status)).get 1 = 0 := by
    rw [get_shareStatuses rfl]
    decide +kernel
  have hstate : (a.part 1).state = .cholesky := by
    show ((b.next numerics .cholesky).part 1).state = _
    rw [part_next]
    unfold perform
    rw [PerProcess.get_map]
    exact congrArg Part.state (part_cholesky hallowed hshared)
  rcases arguments_stay_legal numerics unitKernels_acceptsLegal rfl hmade [load, .cholesky] with
    ⟨hfits, _, _, hcondition⟩
  rcases hcondition #v[-1, 1] 1 hstate with ⟨hrefused, honly⟩
  rcases hrefused.mpr ⟨0, rfl, Or.inr rfl⟩ with ⟨fault, hfault⟩
  rw [honly _ hfault] at hfault
  exact ⟨hmade, (hfits 0 rfl).2, hstate, hfault⟩

end DistributedMatrix
end BlockCyclic
