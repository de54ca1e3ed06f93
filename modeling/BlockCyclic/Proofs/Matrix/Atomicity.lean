import BlockCyclic.Proofs.Kernel.Refusal
import BlockCyclic.Proofs.Matrix.Inversion

/-!
# Failed calls change nothing

A process on which a call fails keeps its part of the matrix. Most calls refuse before
they write. Factorization and inversion write their blocks first and look at statuses
afterwards: a kernel leaves the blocks alone on every status but zero, and the transpose
that completes an inverse cannot fail once the kernel before it has accepted the same
blocks.
-/

namespace BlockCyclic

variable {n : Nat} {delta alpha rho beta gamma : Type}

/-!
# Replies that fail
-/

/-- A failure leaves the part of the process as it was. -/
def Reply.Atomic (p : Part alpha) (reply : Reply alpha beta) : Prop :=
  forall failure, reply.result = .error failure -> reply.part = p

namespace Reply

variable {p : Part alpha}

theorem atomic_refuse (failure : Failure) :
    (refuse p failure : Reply alpha beta).Atomic p :=
  fun _ _ => rfl

theorem atomic_of_ok {reply : Reply alpha beta} {x : beta} (h : reply.result = .ok x) :
    reply.Atomic p := by
  intro failure hfailure
  rw [h] at hfailure
  cases hfailure

theorem atomic_guarded {refusal : Except Failure Unit} {reply : Reply alpha beta}
    (h : reply.Atomic p) : (guarded p refusal reply).Atomic p := by
  unfold guarded
  cases refusal with
  | ok _ => exact h
  | error failure => exact atomic_refuse failure

theorem failure_of_map {reply : Reply alpha beta} {f : beta -> gamma} {failure : Failure}
    (h : (reply.map f).result = .error failure) : reply.result = .error failure := by
  unfold map at h
  cases hresult : reply.result with
  | error own =>
      rw [hresult] at h
      cases h
      rfl
  | ok x =>
      rw [hresult] at h
      cases h

theorem atomic_map {reply : Reply alpha beta} {f : beta -> gamma} (h : reply.Atomic p) :
    (reply.map f).Atomic p :=
  fun failure hfailure => h failure (failure_of_map hfailure)

end Reply

/-!
# What kernels leave of a block
-/

section

variable [Zero alpha]

theorem Communicator.sameShape_scatter (c : Communicator n) (grid : Int × Int) (root : Nat)
    (blocks : Fin n -> Int × Int) (x : PerProcess n (Option (Dense alpha)))
    (locals : PerProcess n (Dense alpha)) (r : Fin n) :
    ((c.scatter grid root blocks x locals).get r).rows = (locals.get r).rows ∧
      ((c.scatter grid root blocks x locals).get r).cols = (locals.get r).cols := by
  unfold scatter scatterFrom
  rw [PerProcess.get_ofFn]
  split
  · exact ⟨rfl, rfl⟩
  · split
    · exact ⟨rfl, rfl⟩
    · split
      · exact ⟨rfl, rfl⟩
      · exact ⟨rfl, rfl⟩

namespace Kernel

variable {g : Grid n} {p : Precision} {args : PerProcess n (TriangleArgs alpha)}
  (routine : String) {serial : Triangle -> Dense alpha -> Factored alpha}

theorem sameShape_onTriangle (r : Fin n) :
    ((onTriangle routine serial g p args).get r).block.rows =
        (args.get r).operand.block.rows ∧
      ((onTriangle routine serial g p args).get r).block.cols =
        (args.get r).operand.block.cols := by
  unfold onTriangle
  simp only
  split
  · rw [PerProcess.get_ofFn]
    split
    · simp only
      split
      · have hshape := g.gridComm.sameShape_scatter g.shape 0
          (fun r => ((args.map TriangleArgs.operand).get r).descriptor.blockSizes)
          ((Vector.ofFn fun r => ((g.gatherOperands (args.map TriangleArgs.operand)).get r).map
            (serial (args.get r).triangle)).map fun s => s.map Factored.matrix)
          ((args.map TriangleArgs.operand).map Operand.block) r
        rw [PerProcess.get_map, PerProcess.get_map] at hshape
        exact hshape
      · exact ⟨rfl, rfl⟩
    · exact ⟨rfl, rfl⟩
  · rw [PerProcess.get_ofFn]
    exact ⟨rfl, rfl⟩

/-- A status of zero anywhere means that the arguments of all processes were in order. -/
theorem met_of_status_onTriangle (hopen : g.released = false) {r : Fin n}
    (hr : g.active r = true)
    (hstatus : ((onTriangle routine serial g p args).get r).status = some 0) {s : Fin n}
    (hs : g.active s = true) :
    forall d, d ∈ (args.get s).demands g p s -> d.met = true := by
  intro d hd
  cases hmet : d.met with
  | true => rfl
  | false =>
      have hoffends : g.Offends fun r => (args.get r).demands g p r := ⟨s, hs, d, hd, hmet⟩
      rcases (onTriangle_refuses hopen p routine serial hoffends).1 with
        ⟨status, hneg, _, hreturned⟩
      have hsame : some 0 = some status := hstatus.symm.trans (hreturned r hr)
      exact absurd (Option.some.inj hsame) (Int.ne_of_gt hneg)

end Kernel

end

/-!
# The transpose of an accepted operand
-/

namespace DistributedMatrix

variable [Zero alpha] {a : DistributedMatrix n alpha} {numerics : Numerics delta alpha rho}

section

variable (hopen : a.layout.grid.released = false)

include hopen

omit [Zero alpha] in
theorem get_shareStatuses (statuses : PerProcess n (Option Int)) (r : Fin n) :
    (a.layout.shareStatuses statuses).get r =
      if a.layout.grid.active r then (statuses.get r).getD 0
      else (statuses.get a.layout.grid.first).getD 0 := by
  unfold Layout.shareStatuses
  rw [Grid.get_sendStatusToInactive hopen, PerProcess.get_map, PerProcess.get_map]

variable {serial : Triangle -> Dense alpha -> Factored alpha} (routine : String)

theorem status_onTriangle_of_shared {status : Int} {r : Fin n}
    (hshared : (a.layout.shareStatuses ((Kernel.onTriangle routine serial a.layout.grid
      a.layout.precision (a.lowerArgs a.blocks)).map KernelResult.status)).get r = status)
    {s : Fin n} (hs : a.layout.grid.active s = true) :
    ((Kernel.onTriangle routine serial a.layout.grid a.layout.precision
      (a.lowerArgs a.blocks)).get s).status = some status := by
  have hkernel : exists common, forall q, a.layout.grid.active q = true ->
      ((Kernel.onTriangle routine serial a.layout.grid a.layout.precision
        (a.lowerArgs a.blocks)).get q).status = some common :=
    Kernel.exists_status_onTriangle routine hopen
  rcases hkernel with ⟨common, hcommon⟩
  have hsent : (a.layout.shareStatuses ((Kernel.onTriangle routine serial a.layout.grid
      a.layout.precision (a.lowerArgs a.blocks)).map KernelResult.status)).get r = common := by
    apply Grid.shareStatuses_of_common hopen
    intro q hq
    rw [PerProcess.get_map, hcommon q hq]
  rw [hcommon s hs, ← hsent, hshared]

theorem block_onTriangle_of_shared {r : Fin n}
    (hshared : (a.layout.shareStatuses ((Kernel.onTriangle routine serial a.layout.grid
      a.layout.precision (a.lowerArgs a.blocks)).map KernelResult.status)).get r ≠ 0) :
    ((Kernel.onTriangle routine serial a.layout.grid a.layout.precision
      (a.lowerArgs a.blocks)).get r).block = (a.part r).block := by
  rw [get_shareStatuses hopen, PerProcess.get_map] at hshared
  have hown : (a.part r).block = ((a.lowerArgs a.blocks).get r).operand.block := by
    rw [block_lowerArgs]
    unfold blocks part
    rw [PerProcess.get_map]
  rw [hown]
  apply Kernel.block_onTriangle_of_status_ne
  intro hstatus
  cases hr : a.layout.grid.active r with
  | true =>
      rw [hr, if_pos rfl, hstatus] at hshared
      exact hshared rfl
  | false =>
      rw [Kernel.status_onTriangle_of_inactive routine hr] at hstatus
      cases hstatus

omit [Zero alpha] hopen in
theorem blockFits_of_sameShape {r : Fin n} {x y : Dense alpha} (hrows : y.rows = x.rows)
    (hcols : y.cols = x.cols)
    (h : a.layout.grid.blockFits a.layout.precision r
      ⟨.ofPrecision a.layout.precision, x, a.layout.descriptor r⟩ = true) :
    a.layout.grid.blockFits a.layout.precision r
      ⟨.ofPrecision a.layout.precision, y, a.layout.descriptor r⟩ = true := by
  unfold Grid.blockFits at h ⊢
  simp only at h ⊢
  rw [hrows, hcols]
  exact h

/-- What the kernel before it has accepted, the transpose accepts. -/
theorem check_transposeArgs_of_status {r : Fin n} (hr : a.layout.grid.active r = true)
    (hstatus : ((Kernel.onTriangle routine serial a.layout.grid a.layout.precision
      (a.lowerArgs a.blocks)).get r).status = some 0) :
    ((a.transposeArgs ((Kernel.onTriangle routine serial a.layout.grid a.layout.precision
      (a.lowerArgs a.blocks)).map KernelResult.block)).get r).check a.layout.grid
        a.layout.precision r = 0 := by
  have hmet := Kernel.met_of_status_onTriangle routine hopen hr hstatus hr
  have hshape : ((Kernel.onTriangle routine serial a.layout.grid a.layout.precision
      (a.lowerArgs a.blocks)).get r).block.rows = _ ∧ _ :=
    Kernel.sameShape_onTriangle routine r
  rw [block_lowerArgs] at hshape
  have hargs : (a.lowerArgs a.blocks).get r = ⟨Triangle.lower.letter,
      ⟨.ofPrecision a.layout.precision, a.blocks.get r, a.layout.descriptor r⟩⟩ := by
    unfold lowerArgs
    rw [PerProcess.get_ofFn]
  rw [hargs] at hmet
  have hfits := hmet ⟨2, a.layout.grid.blockFits a.layout.precision r
      ⟨.ofPrecision a.layout.precision, a.blocks.get r, a.layout.descriptor r⟩⟩
    (by simp [TriangleArgs.demands, Grid.operandDemands])
  have hsquare := hmet ⟨3, (a.layout.descriptor r).m == (a.layout.descriptor r).n⟩
    (by simp [TriangleArgs.demands])
  have haccepted := a.layout.accepts_descriptor r
  rw [TransposeArgs.check_eq]
  apply Demand.firstOffence_of_met
  intro d hd
  unfold transposeArgs at hd
  simp only [PerProcess.get_ofFn, PerProcess.get_map, TransposeArgs.demands,
    Grid.operandDemands, List.cons_append, List.nil_append, List.mem_cons, List.not_mem_nil,
    or_false] at hd
  rcases hd with rfl | rfl | rfl | rfl | rfl
  · exact haccepted
  · exact blockFits_of_sameShape hshape.1 hshape.2 hfits
  · exact haccepted
  · exact blockFits_of_sameShape hshape.1 hshape.2 hfits
  · have hsame : (a.layout.descriptor r).m = (a.layout.descriptor r).n :=
      beq_iff_eq.mp hsquare
    exact beq_iff_eq.mpr (Prod.ext hsame hsame.symm)

theorem turned_of_shared {r : Fin n}
    (hshared : (a.layout.shareStatuses ((Kernel.onTriangle routine serial a.layout.grid
      a.layout.precision (a.lowerArgs a.blocks)).map KernelResult.status)).get r = 0) :
    (a.layout.shareStatuses ((Kernel.transpose a.layout.grid a.layout.precision
      (a.transposeArgs ((Kernel.onTriangle routine serial a.layout.grid a.layout.precision
        (a.lowerArgs a.blocks)).map KernelResult.block))).map KernelResult.status)).get r =
      0 := by
  apply Grid.shareStatuses_of_common hopen
  intro s hs
  rw [PerProcess.get_map]
  apply Kernel.status_transpose_of_check hopen _ hs
  intro q hq
  exact check_transposeArgs_of_status hopen routine hq
    (status_onTriangle_of_shared hopen routine hshared hq)

end

/-!
# Single calls
-/

omit [Zero alpha] in
/-- A kernel that has failed is harmless if it has left the block alone. -/
theorem atomic_failed {r : Fin n} {block : Dense alpha} (hblock : block = (a.part r).block)
    (routine : String) (status : Int) (log : List Event) :
    (a.failed r block routine status log : Reply alpha beta).Atomic (a.part r) := by
  intro _ _
  unfold failed
  rw [hblock]

omit [Zero alpha] in
theorem atomic_setProperty (choice : PropertyChoice) (r : Fin n) :
    ((a.setProperty choice).get r).Atomic (a.part r) := by
  unfold setProperty setPropertyOn
  rw [PerProcess.get_ofFn]
  cases a.layout.demandProperty choice with
  | ok property => exact Reply.atomic_of_ok rfl
  | error failure => exact Reply.atomic_refuse failure

theorem atomic_assign (x : PerProcess n (Option (Sheet delta))) (choice : PropertyChoice)
    (r : Fin n) : ((a.assign numerics x choice).get r).Atomic (a.part r) := by
  unfold assign
  simp only [PerProcess.get_ofFn]
  cases a.layout.propertyFrom choice with
  | error failure => exact Reply.atomic_refuse failure
  | ok property =>
      cases (a.verdicts x).get r with
      | true => exact Reply.atomic_of_ok rfl
      | false => exact Reply.atomic_refuse _

theorem atomic_fill (f : Region -> Except Failure (Sheet delta)) (choice : PropertyChoice)
    (r : Fin n) : ((a.fill numerics f choice).get r).Atomic (a.part r) := by
  unfold fill fillOn
  rw [PerProcess.get_ofFn]
  cases a.layout.propertyFrom choice with
  | error failure => exact Reply.atomic_refuse failure
  | ok property =>
      cases a.evaluated numerics f r with
      | error failure => exact Reply.atomic_refuse failure
      | ok block => exact Reply.atomic_of_ok rfl

theorem atomic_setElement (r : Fin n) (i j : Subscript) (value : alpha) :
    (a.setElement r i j value).Atomic (a.part r) := by
  unfold setElement
  simp only
  cases a.selection r i j with
  | ok selected => exact Reply.atomic_of_ok rfl
  | error failure => exact Reply.atomic_refuse failure

theorem atomic_copyTo (everywhere : Bool) (r : Fin n) :
    ((a.copyTo everywhere).get r).Atomic (a.part r) := by
  unfold copyTo
  rw [PerProcess.get_ofFn]
  exact Reply.atomic_guarded (Reply.atomic_of_ok rfl)

theorem atomic_cholesky (hopen : a.layout.grid.released = false) (r : Fin n) :
    ((a.cholesky numerics).get r).Atomic (a.part r) := by
  unfold cholesky
  rw [PerProcess.get_ofFn]
  apply Reply.atomic_guarded
  split
  next hstatus => exact atomic_failed (block_onTriangle_of_shared hopen "potrf" hstatus) _ _ _
  next => exact Reply.atomic_of_ok rfl

theorem part_cholesky {r : Fin n}
    (hallowed : (a.part r).requireSymmetric .cholesky = .ok ())
    (hstatus : (a.layout.shareStatuses ((Kernel.factor numerics.serial a.layout.grid
      a.layout.precision (a.lowerArgs a.blocks)).map KernelResult.status)).get r = 0) :
    ((a.cholesky numerics).get r).part =
      { a.part r with
        block := a.layout.clearAbove r ((Kernel.factor numerics.serial a.layout.grid
          a.layout.precision (a.lowerArgs a.blocks)).get r).block
        state := .cholesky
        property := .lowerTriangular } := by
  unfold cholesky
  simp only [PerProcess.get_ofFn, hallowed, Reply.guarded, hstatus, ne_eq, not_true_eq_false,
    if_false]

theorem atomic_invert (hopen : a.layout.grid.released = false) (r : Fin n) :
    ((a.invert numerics).get r).Atomic (a.part r) := by
  unfold invert
  rw [PerProcess.get_ofFn]
  apply Reply.atomic_guarded
  split
  next hstatus =>
    rw [PerProcess.get_map]
    exact atomic_failed (block_onTriangle_of_shared hopen "potri" hstatus) _ _ _
  next hstatus =>
    -- The block is overwritten by now, but the transpose that follows cannot fail.
    have hturned := turned_of_shared hopen "potri" (not_not.mp hstatus)
    split
    next hturn => exact absurd hturned hturn
    next => exact Reply.atomic_of_ok rfl

theorem atomic_eigen (vectors : Bool) (r : Fin n) :
    ((a.eigen numerics vectors).get r).Atomic (a.part r) := by
  unfold eigen
  rw [PerProcess.get_ofFn]
  apply Reply.atomic_guarded
  split
  next => exact atomic_failed rfl _ _ _
  next => exact Reply.atomic_of_ok rfl

theorem atomic_condition [Zero rho] [Measure rho] (norm : PerProcess n rho) (r : Fin n) :
    ((a.condition numerics norm).get r).Atomic (a.part r) := by
  unfold condition
  rw [PerProcess.get_ofFn]
  apply Reply.atomic_guarded
  split
  next => exact atomic_failed rfl _ _ _
  next => exact Reply.atomic_of_ok rfl

theorem atomic_norm (kind : NormKind) (r : Fin n) :
    ((a.norm numerics kind).get r).Atomic (a.part r) := by
  unfold norm
  rw [PerProcess.get_ofFn]
  exact Reply.atomic_guarded (Reply.atomic_of_ok rfl)

/-!
# Any call
-/

variable [Zero rho] [Measure rho]

omit [Zero alpha] [Zero rho] [Measure rho] in
theorem atomic_mapped {replies : Replies n alpha beta}
    (h : forall r, (replies.get r).Atomic (a.part r)) (f : beta -> gamma) (r : Fin n) :
    ((replies.map (Reply.map f)).get r).Atomic (a.part r) := by
  rw [PerProcess.get_map]
  exact Reply.atomic_map (h r)

theorem atomic_perform (hopen : a.layout.grid.released = false)
    (call : Call n delta alpha rho) (r : Fin n) :
    ((a.perform numerics call).get r).Atomic (a.part r) := by
  cases call with
  | setProperty choice => exact atomic_mapped (atomic_setProperty choice) _ r
  | assign x choice => exact atomic_mapped (atomic_assign x choice) _ r
  | fill f choice => exact atomic_mapped (atomic_fill f choice) _ r
  | setElement writers i j value =>
      unfold perform
      simp only
      rw [PerProcess.get_ofFn]
      cases writers r with
      | true => exact Reply.atomic_map (atomic_setElement r i j value)
      | false => exact Reply.atomic_of_ok rfl
  | copyTo everywhere => exact atomic_mapped (atomic_copyTo everywhere) _ r
  | cholesky => exact atomic_mapped (atomic_cholesky hopen) _ r
  | invert => exact atomic_mapped (atomic_invert hopen) _ r
  | eigen vectors => exact atomic_mapped (atomic_eigen vectors) _ r
  | condition norm => exact atomic_mapped (atomic_condition norm) _ r
  | norm kind => exact atomic_mapped (atomic_norm kind) _ r

end DistributedMatrix
end BlockCyclic
