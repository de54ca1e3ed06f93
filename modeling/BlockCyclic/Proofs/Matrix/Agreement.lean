import BlockCyclic.Matrix.Call
import BlockCyclic.Proofs.Kernel.Condition
import BlockCyclic.Proofs.Kernel.Exact
import BlockCyclic.Proofs.Matrix.Creation
import BlockCyclic.Proofs.Matrix.Solving

/-!
# Agreement of all processes

Whatever the local blocks hold, all processes give a matrix the same meaning: the same
state and the same properties. A collective call has one outcome on all of them, and
leaves them in agreement, so that whole programs do.
-/

namespace BlockCyclic

variable {n : Nat} {delta alpha rho beta gamma : Type}

/-!
# Agreement
-/

/-- What a process takes its content to be. -/
def Part.meaning (p : Part alpha) : State × Property × Property :=
  (p.state, p.property, p.freshProperty)

def DistributedMatrix.Agrees (a : DistributedMatrix n alpha) : Prop :=
  forall r s, (a.part r).meaning = (a.part s).meaning

/--
The replies of all processes leave them in agreement, and all of them are the same
failure, or results that have the same share in common.
-/
def Replies.Concur (share : beta -> gamma) (replies : Replies n alpha beta) : Prop :=
  forall r s, (replies.get r).part.meaning = (replies.get s).part.meaning ∧
    (replies.get r).result.map share = (replies.get s).result.map share

namespace Replies

variable {share : beta -> gamma}

theorem concur_map {delta : Type} {replies : Replies n alpha beta} {f : beta -> gamma}
    {share : gamma -> delta} (h : Concur (share ∘ f) replies) :
    Concur share (replies.map (Reply.map f)) := by
  have hmap : forall result : Except Failure beta,
      (result.map f).map share = result.map (share ∘ f) := by
    intro result
    cases result with
    | error failure => rfl
    | ok x => rfl
  intro r s
  rw [PerProcess.get_map, PerProcess.get_map]
  unfold Reply.map
  rw [hmap, hmap]
  exact h r s

theorem outcome_of_concur {replies : Replies n alpha beta} (h : Concur share replies) :
    (exists failure, forall r, (replies.get r).result = .error failure) ∨
    (forall r s, exists x y, (replies.get r).result = .ok x ∧
      (replies.get s).result = .ok y ∧ share x = share y) := by
  -- The outcome of the first process decides; without processes there is nothing to show.
  cases n with
  | zero => exact Or.inr fun r => r.elim0
  | succ k =>
      cases hfirst : (replies.get 0).result with
      | error failure =>
          refine Or.inl ⟨failure, ?_⟩
          intro r
          have hsame := (h 0 r).2
          rw [hfirst] at hsame
          cases hr : (replies.get r).result with
          | error other =>
              rw [hr] at hsame
              cases hsame
              rfl
          | ok x =>
              rw [hr] at hsame
              cases hsame
      | ok first =>
          have hall : forall r, exists x, (replies.get r).result = .ok x ∧
              share x = share first := by
            intro r
            have hsame := (h r 0).2
            rw [hfirst] at hsame
            cases hr : (replies.get r).result with
            | error failure =>
                rw [hr] at hsame
                cases hsame
            | ok x =>
                rw [hr] at hsame
                exact ⟨x, rfl, Except.ok.inj hsame⟩
          refine Or.inr ?_
          intro r s
          rcases hall r with ⟨x, hx, hxshare⟩
          rcases hall s with ⟨y, hy, hyshare⟩
          exact ⟨x, y, hx, hy, hxshare.trans hyshare.symm⟩

end Replies

/-!
# Refusals
-/

section

variable {p q : Part alpha}

theorem Part.state_eq (h : p.meaning = q.meaning) : p.state = q.state :=
  congrArg Prod.fst h

theorem Part.property_eq (h : p.meaning = q.meaning) : p.property = q.property :=
  congrArg (fun m => m.2.1) h

theorem Part.freshProperty_eq (h : p.meaning = q.meaning) :
    p.freshProperty = q.freshProperty :=
  congrArg (fun m => m.2.2) h

theorem Part.requireState_congr (h : p.meaning = q.meaning) (operation : Operation) :
    p.requireState operation = q.requireState operation := by
  unfold requireState
  rw [state_eq h]

theorem Part.requireSymmetric_congr (h : p.meaning = q.meaning) (operation : Operation) :
    p.requireSymmetric operation = q.requireSymmetric operation := by
  unfold requireSymmetric requireProperty
  rw [requireState_congr h, property_eq h]

end

namespace DistributedMatrix

variable {a : DistributedMatrix n alpha} {share : beta -> gamma}

theorem concur_guarded (ha : a.Agrees) {refusal : Part alpha -> Except Failure Unit}
    (hrefusal : forall p q : Part alpha, p.meaning = q.meaning -> refusal p = refusal q)
    {f : Fin n -> Reply alpha beta} (h : Replies.Concur share (Vector.ofFn f)) :
    Replies.Concur share
      (Vector.ofFn fun r => Reply.guarded (a.part r) (refusal (a.part r)) (f r)) := by
  intro r s
  have hsame := h r s
  rw [PerProcess.get_ofFn, PerProcess.get_ofFn] at hsame ⊢
  rw [hrefusal _ _ (ha r s)]
  unfold Reply.guarded
  cases refusal (a.part s) with
  | ok _ => exact hsame
  | error failure => exact ⟨ha r s, rfl⟩

/-!
# Single calls
-/

theorem agrees_after (replies : Replies n alpha beta) (h : Replies.Concur share replies) :
    (a.after replies).Agrees := by
  intro r s
  unfold part after
  rw [PerProcess.get_map, PerProcess.get_map]
  exact (h r s).1

theorem concur_setProperty {share : Unit -> gamma} (ha : a.Agrees)
    (choice : PropertyChoice) :
    Replies.Concur share (a.setProperty choice) := by
  intro r s
  unfold setProperty
  rw [PerProcess.get_ofFn, PerProcess.get_ofFn]
  unfold setPropertyOn
  cases a.layout.demandProperty choice with
  | error failure => exact ⟨ha r s, rfl⟩
  | ok property =>
      refine ⟨?_, rfl⟩
      unfold Part.meaning Reply.answer
      simp only
      rw [Part.state_eq (ha r s)]

theorem meaning_loaded (ha : a.Agrees) (r s : Fin n) (block other : Dense alpha)
    (property : Option Property) (log otherLog : List Event) :
    (a.loaded r block property log).part.meaning =
      (a.loaded s other property otherLog).part.meaning := by
  unfold loaded Part.load Part.meaning
  simp only
  rw [Part.freshProperty_eq (ha r s)]

variable [Zero alpha] {numerics : Numerics delta alpha rho}

theorem concur_assign {share : Unit -> gamma} (g : Grid n) (ha : a.Agrees)
    (x : PerProcess n (Option (Sheet delta))) (choice : PropertyChoice) :
    Replies.Concur share (a.assign numerics x choice) := by
  have hverdict : forall r, (a.verdicts x).get r = a.provides (x.get g.first) := by
    intro r
    unfold verdicts
    rw [Grid.get_world_broadcast g, PerProcess.get_map]
  intro r s
  unfold assign
  simp only [PerProcess.get_ofFn, hverdict]
  cases a.layout.propertyFrom choice with
  | error failure => exact ⟨ha r s, rfl⟩
  | ok property =>
      cases a.provides (x.get g.first) with
      | true => exact ⟨meaning_loaded ha r s _ _ property _ _, rfl⟩
      | false => exact ⟨ha r s, rfl⟩

def Supplies (numerics : Numerics delta alpha rho) (l : Layout n)
    (f : Region -> Except Failure (Sheet delta)) : Prop :=
  forall r, l.grid.active r = true -> exists values, f (l.indices r) = .ok values ∧
    (values.stretch? (numerics.enter l.precision) (l.localShape r).1
      (l.localShape r).2).isSome

theorem evaluated_of_supplies {f : Region -> Except Failure (Sheet delta)}
    (hf : Supplies numerics a.layout f) (r : Fin n) :
    exists block, a.evaluated numerics f r = .ok block := by
  unfold evaluated
  simp only
  cases hr : a.layout.grid.active r with
  | false => exact ⟨_, rfl⟩
  | true =>
      rcases hf r hr with ⟨values, hvalues, hstretch⟩
      rcases Option.isSome_iff_exists.mp hstretch with ⟨block, hblock⟩
      refine ⟨block, ?_⟩
      simp only [hvalues, if_true, bind, Except.bind, hblock]

theorem concur_fill {share : Unit -> gamma} (ha : a.Agrees)
    {f : Region -> Except Failure (Sheet delta)} (hf : Supplies numerics a.layout f)
    (choice : PropertyChoice) :
    Replies.Concur share (a.fill numerics f choice) := by
  intro r s
  rcases evaluated_of_supplies hf r with ⟨block, hblock⟩
  rcases evaluated_of_supplies hf s with ⟨other, hother⟩
  unfold fill
  rw [PerProcess.get_ofFn, PerProcess.get_ofFn]
  unfold fillOn
  rw [hblock, hother]
  cases a.layout.propertyFrom choice with
  | error failure => exact ⟨ha r s, rfl⟩
  | ok property => exact ⟨meaning_loaded ha r s _ _ property _ _, rfl⟩

/-- Copies differ between processes, but nothing else does. -/
theorem concur_copyTo {share : Option (Dense alpha) -> gamma}
    (hshare : forall x y, share x = share y) (ha : a.Agrees) (everywhere : Bool) :
    Replies.Concur share (a.copyTo everywhere) := by
  unfold copyTo
  apply concur_guarded ha (fun p q h => Part.requireState_congr h .copy)
  intro r s
  rw [PerProcess.get_ofFn, PerProcess.get_ofFn]
  exact ⟨ha r s, congrArg Except.ok (hshare _ _)⟩

/-!
# Kernels
-/

section

variable (hopen : a.layout.grid.released = false)

include hopen

omit [Zero alpha] in
theorem exists_shareStatuses {results : PerProcess n beta} {status : beta -> Option Int}
    (h : exists common, forall r, a.layout.grid.active r = true ->
      status (results.get r) = some common) :
    exists common, forall r,
      (a.layout.shareStatuses (results.map status)).get r = common := by
  rcases h with ⟨common, hcommon⟩
  refine ⟨common, ?_⟩
  apply Grid.shareStatuses_of_common hopen
  intro r hr
  rw [PerProcess.get_map, hcommon r hr]

theorem concur_cholesky {share : Unit -> gamma} (ha : a.Agrees) :
    Replies.Concur share (a.cholesky numerics) := by
  have hshared : exists status, forall r, (a.layout.shareStatuses
      ((Kernel.factor numerics.serial a.layout.grid a.layout.precision
        (a.lowerArgs a.blocks)).map KernelResult.status)).get r = status :=
    exists_shareStatuses hopen (Kernel.exists_status_onTriangle "potrf" hopen)
  rcases hshared with ⟨status, hstatus⟩
  unfold cholesky
  apply concur_guarded ha (fun p q h => Part.requireSymmetric_congr h .cholesky)
  intro r s
  rw [PerProcess.get_ofFn, PerProcess.get_ofFn, hstatus r, hstatus s]
  by_cases hzero : status = 0
  · rw [if_neg (not_not_intro hzero), if_neg (not_not_intro hzero)]
    refine ⟨?_, rfl⟩
    unfold Part.meaning
    simp only
    rw [Part.freshProperty_eq (ha r s)]
  · rw [if_pos hzero, if_pos hzero]
    exact ⟨ha r s, rfl⟩

theorem concur_invert {share : Unit -> gamma} (ha : a.Agrees) :
    Replies.Concur share (a.invert numerics) := by
  have hshared : exists status, forall r, (a.layout.shareStatuses
      ((Kernel.invert numerics.serial a.layout.grid a.layout.precision
        (a.lowerArgs a.blocks)).map KernelResult.status)).get r = status :=
    exists_shareStatuses hopen (Kernel.exists_status_onTriangle "potri" hopen)
  have hturned : exists status, forall r, (a.layout.shareStatuses
      ((Kernel.transpose a.layout.grid a.layout.precision (a.transposeArgs
        ((Kernel.invert numerics.serial a.layout.grid a.layout.precision
          (a.lowerArgs a.blocks)).map KernelResult.block))).map
            KernelResult.status)).get r = status :=
    exists_shareStatuses hopen (Kernel.exists_status_transpose hopen)
  rcases hshared with ⟨status, hstatus⟩
  rcases hturned with ⟨turn, hturn⟩
  unfold invert
  apply concur_guarded ha (fun p q h => Part.requireState_congr h .inversion)
  intro r s
  rw [PerProcess.get_ofFn, PerProcess.get_ofFn, hstatus r, hstatus s, hturn r, hturn s]
  by_cases hzero : status = 0
  · rw [if_neg (not_not_intro hzero), if_neg (not_not_intro hzero)]
    by_cases hturnZero : turn = 0
    · rw [if_neg (not_not_intro hturnZero), if_neg (not_not_intro hturnZero)]
      refine ⟨?_, rfl⟩
      unfold Part.meaning
      simp only
      rw [Part.freshProperty_eq (ha r s)]
    · rw [if_pos hturnZero, if_pos hturnZero]
      exact ⟨ha r s, rfl⟩
  · rw [if_pos hzero, if_pos hzero]
    exact ⟨ha r s, rfl⟩

omit [Zero alpha] hopen in
theorem meaning_solvedPart (ha : a.Agrees) (r s : Fin n) (vectors active other : Bool)
    (block otherBlock : Dense alpha) :
    (solvedPart (a.part r) vectors active block).meaning =
      (solvedPart (a.part s) vectors other otherBlock).meaning := by
  unfold solvedPart Part.meaning
  cases vectors with
  | true =>
      simp only [if_true]
      rw [Part.freshProperty_eq (ha r s)]
  | false =>
      simp only [Bool.false_eq_true, if_false]
      rw [Part.freshProperty_eq (ha r s), Part.property_eq (ha r s)]

theorem concur_eigen {share : Array alpha -> gamma} (ha : a.Agrees) (vectors : Bool) :
    Replies.Concur share (a.eigen numerics vectors) := by
  have hkernel : exists (status : Int) (values : Array alpha),
      (Array.replicate (min a.layout.rows a.layout.cols) (0 : alpha)).size ≤ values.size ∧
        forall r, a.layout.grid.active r = true ->
          ((Kernel.eigen numerics.serial a.layout.grid a.layout.precision
            (a.eigenArgs numerics.serial.eigenWorkspace vectors)).get r).status = some status ∧
          ((Kernel.eigen numerics.serial a.layout.grid a.layout.precision
            (a.eigenArgs numerics.serial.eigenWorkspace vectors)).get r).values = values :=
    Kernel.exists_values_eigen hopen (values_eigenArgs _ a vectors)
  rcases hkernel with ⟨status, values, hsize, hresult⟩
  have hstatus : forall r, (a.layout.shareStatuses
      ((Kernel.eigen numerics.serial a.layout.grid a.layout.precision
        (a.eigenArgs numerics.serial.eigenWorkspace vectors)).map EigenResult.status)).get r =
          status := by
    apply Grid.shareStatuses_of_common hopen
    intro r hr
    rw [PerProcess.get_map, (hresult r hr).1]
  have hvalues : forall r, (a.layout.grid.sendBufferToInactive
      ((Kernel.eigen numerics.serial a.layout.grid a.layout.precision
        (a.eigenArgs numerics.serial.eigenWorkspace vectors)).map EigenResult.values)).get r =
          values := by
    apply Grid.sendBufferToInactive_of_common hopen
    · intro r hr
      rw [PerProcess.get_map, (hresult r hr).2]
    · intro r hr
      rw [PerProcess.get_map, Kernel.values_eigen_of_inactive hr, values_eigenArgs]
      exact hsize
  unfold eigen
  apply concur_guarded ha (fun p q h => Part.requireSymmetric_congr h .eigen)
  intro r s
  rw [PerProcess.get_ofFn, PerProcess.get_ofFn]
  simp only
  rw [hstatus r, hstatus s, hvalues r, hvalues s]
  by_cases hzero : status = 0
  · rw [if_neg (not_not_intro hzero), if_neg (not_not_intro hzero)]
    exact ⟨meaning_solvedPart ha r s vectors _ _ _ _, rfl⟩
  · rw [if_pos hzero, if_pos hzero]
    exact ⟨ha r s, rfl⟩

theorem concur_condition [Zero rho] [Measure rho] {share : rho -> gamma} (ha : a.Agrees)
    (norm : PerProcess n rho) :
    Replies.Concur share (a.condition numerics norm) := by
  have hkernel : exists outcome, forall r, a.layout.grid.active r = true ->
      ((Kernel.condition numerics.serial a.layout.grid a.layout.precision
        (a.conditionArgs norm)).get r).outcome = some outcome :=
    Kernel.exists_outcome_condition hopen
  rcases hkernel with ⟨outcome, houtcome⟩
  have hshared : forall r, (a.layout.grid.sendToInactive
      ((Kernel.condition numerics.serial a.layout.grid a.layout.precision
        (a.conditionArgs norm)).map fun c => c.outcome.getD (0, 0))).get r = outcome := by
    apply Grid.sendToInactive_of_common hopen
    intro r hr
    rw [PerProcess.get_map, houtcome r hr]
    rfl
  unfold condition
  apply concur_guarded ha (fun p q h => Part.requireState_congr h .condition)
  intro r s
  rw [PerProcess.get_ofFn, PerProcess.get_ofFn, hshared r, hshared s]
  by_cases hzero : outcome.2 = 0
  · rw [if_neg (not_not_intro hzero), if_neg (not_not_intro hzero)]
    exact ⟨ha r s, rfl⟩
  · rw [if_pos hzero, if_pos hzero]
    exact ⟨ha r s, rfl⟩

theorem concur_norm {share : rho -> gamma} (ha : a.Agrees) (kind : NormKind) :
    Replies.Concur share (a.norm numerics kind) := by
  have hkernel : exists value, forall r, a.layout.grid.active r = true ->
      (numerics.norms.distributed kind a.layout.grid a.blocks).get r = some value :=
    NormArithmetic.exists_distributed hopen kind a.blocks
  rcases hkernel with ⟨value, hvalue⟩
  have hshared : forall r, (a.layout.grid.sendToInactive
      ((numerics.norms.distributed kind a.layout.grid a.blocks).map fun v =>
        v.getD numerics.norms.zero)).get r = value := by
    apply Grid.sendToInactive_of_common hopen
    intro r hr
    rw [PerProcess.get_map, hvalue r hr]
    rfl
  unfold norm
  apply concur_guarded ha (fun p q h => Part.requireState_congr h (.norm kind))
  intro r s
  rw [PerProcess.get_ofFn, PerProcess.get_ofFn, hshared r, hshared s]
  exact ⟨ha r s, rfl⟩

end

/-!
# Programs
-/

end DistributedMatrix

/-- A call that all processes make, with content that every process of the grid can supply. -/
def Call.Collective [Zero alpha] (numerics : Numerics delta alpha rho) (l : Layout n) :
    Call n delta alpha rho -> Prop
  | .fill f _ => DistributedMatrix.Supplies numerics l f
  | .setElement .. => False
  | _ => True

/-- What an answer holds besides copies of the content. -/
def Answer.common (x : Answer alpha rho) : Option (Array alpha) × Option rho :=
  (x.eigenvalues?, x.measure?)

namespace DistributedMatrix

variable [Zero alpha] [Zero rho] [Measure rho] {numerics : Numerics delta alpha rho}

theorem concur_perform {a : DistributedMatrix n alpha}
    (hopen : a.layout.grid.released = false) (ha : a.Agrees)
    {call : Call n delta alpha rho} (hcall : call.Collective numerics a.layout) :
    Replies.Concur Answer.common (a.perform numerics call) := by
  cases call with
  | setProperty choice => exact Replies.concur_map (concur_setProperty ha choice)
  | assign x choice =>
      exact Replies.concur_map (concur_assign a.layout.grid ha x choice)
  | fill f choice => exact Replies.concur_map (concur_fill ha hcall choice)
  | setElement writers i j value => cases hcall
  | copyTo everywhere =>
      apply Replies.concur_map
      exact concur_copyTo (fun _ _ => rfl) ha everywhere
  | cholesky => exact Replies.concur_map (concur_cholesky hopen ha)
  | invert => exact Replies.concur_map (concur_invert hopen ha)
  | eigen vectors => exact Replies.concur_map (concur_eigen hopen ha vectors)
  | condition norm => exact Replies.concur_map (concur_condition hopen ha norm)
  | norm kind => exact Replies.concur_map (concur_norm hopen ha kind)

theorem layout_run (a : DistributedMatrix n alpha)
    (program : List (Call n delta alpha rho)) :
    (a.run numerics program).layout = a.layout := by
  unfold run
  induction program generalizing a with
  | nil => rfl
  | cons call rest ih =>
      rw [List.foldl_cons, ih]
      rfl

theorem run_cons (a : DistributedMatrix n alpha) (call : Call n delta alpha rho)
    (program : List (Call n delta alpha rho)) :
    a.run numerics (call :: program) = (a.next numerics call).run numerics program :=
  rfl

theorem part_next (a : DistributedMatrix n alpha) (call : Call n delta alpha rho)
    (r : Fin n) :
    (a.next numerics call).part r = ((a.perform numerics call).get r).part := by
  unfold next after part
  rw [PerProcess.get_map]

/-- A call that leaves every process with the part that it had changes nothing. -/
theorem next_eq_of_parts {a : DistributedMatrix n alpha} {call : Call n delta alpha rho}
    (h : forall r, ((a.perform numerics call).get r).part = a.part r) :
    a.next numerics call = a := by
  have hsame : (a.next numerics call).parts = a.parts := by
    apply PerProcess.ext
    intro r
    exact (part_next a call r).trans (h r)
  show { a with parts := (a.next numerics call).parts } = a
  rw [hsame]

theorem next_norm (numerics : Numerics delta alpha rho) (a : DistributedMatrix n alpha)
    (kind : NormKind) : a.next numerics (.norm kind) = a := by
  apply next_eq_of_parts
  intro r
  unfold perform norm
  rw [PerProcess.get_map, PerProcess.get_ofFn]
  cases h : (a.part r).requireState (.norm kind) with
  | ok _ =>
      simp only [h]
      rfl
  | error failure =>
      simp only [h]
      rfl

/-- What every call of a program preserves, the whole program does; layouts never change. -/
theorem run_preserves {P : DistributedMatrix n alpha -> Prop}
    {C : Call n delta alpha rho -> Prop} {l : Layout n}
    (hstep : forall b call, b.layout = l -> C call -> P b -> P (b.next numerics call))
    {a : DistributedMatrix n alpha} (hlayout : a.layout = l) (ha : P a)
    {program : List (Call n delta alpha rho)}
    (hprogram : forall call, call ∈ program -> C call) : P (a.run numerics program) := by
  induction program generalizing a with
  | nil => exact ha
  | cons call rest ih =>
      rw [run_cons]
      apply ih
      · exact hlayout
      · exact hstep a call hlayout (hprogram call List.mem_cons_self) ha
      · intro later hlater
        exact hprogram later (List.mem_cons_of_mem call hlater)

theorem agrees_run {a : DistributedMatrix n alpha}
    (hopen : a.layout.grid.released = false) (ha : a.Agrees)
    {program : List (Call n delta alpha rho)}
    (hprogram : forall call, call ∈ program -> call.Collective numerics a.layout) :
    (a.run numerics program).Agrees := by
  apply run_preserves _ rfl ha hprogram
  intro b call hlayout hcall hb
  rw [← hlayout] at hopen hcall
  exact agrees_after _ (concur_perform hopen hb hcall)

theorem agrees_blank (l : Layout n) (property : Property) :
    (blank l property : DistributedMatrix n alpha).Agrees := by
  intro r s
  unfold part blank
  rw [PerProcess.get_ofFn, PerProcess.get_ofFn]
  rfl

end DistributedMatrix

/--
After every call of a program, all processes are in one state and see one property, and
the call was one failure on all of them, or it gave all of them the same values.
-/
theorem DistributedMatrix.program_agrees [Zero alpha] [Zero rho] [Measure rho]
    (numerics : Numerics delta alpha rho) {q : MatrixRequest} {settings : Settings}
    {grid : Grid n} (hopen : grid.released = false) {shape : Argument}
    {made : Created n alpha} (hmade : q.create settings grid shape = .ok made)
    (program : List (Call n delta alpha rho))
    (hprogram : forall call, call ∈ program ->
      call.Collective numerics made.matrix.layout) :
    forall before call after, program = before ++ call :: after ->
      let a := made.matrix.run numerics before
      let replies := a.perform numerics call
      (forall r s, ((a.next numerics call).part r).state =
          ((a.next numerics call).part s).state ∧
        ((a.next numerics call).part r).property =
          ((a.next numerics call).part s).property) ∧
      ((exists failure, forall r, (replies.get r).result = .error failure) ∨
        (forall r s, exists x y, (replies.get r).result = .ok x ∧
          (replies.get s).result = .ok y ∧ x.eigenvalues? = y.eigenvalues? ∧
          x.measure? = y.measure?)) := by
  intro before call after hsplit a replies
  rcases MatrixRequest.matrix_of_create hmade with ⟨hgrid, property, hblank⟩
  have hlayout : a.layout = made.matrix.layout := layout_run _ before
  have hopenMade : made.matrix.layout.grid.released = false := by rw [hgrid, hopen]
  have ha : a.Agrees := by
    apply agrees_run hopenMade
    · rw [hblank]
      exact agrees_blank _ property
    · intro earlier hearlier
      apply hprogram earlier
      rw [hsplit]
      exact List.mem_append_left _ hearlier
  have hcall : call.Collective numerics a.layout := by
    rw [hlayout]
    apply hprogram call
    rw [hsplit]
    exact List.mem_append_right before List.mem_cons_self
  have hconcur : Replies.Concur Answer.common replies :=
    concur_perform (by rw [hlayout, hopenMade]) ha hcall
  have hnext : (a.next numerics call).Agrees := agrees_after _ hconcur
  constructor
  · intro r s
    exact ⟨Part.state_eq (hnext r s), Part.property_eq (hnext r s)⟩
  · rcases Replies.outcome_of_concur hconcur with hfailure | hresults
    · exact Or.inl hfailure
    · refine Or.inr ?_
      intro r s
      rcases hresults r s with ⟨x, y, hx, hy, hcommon⟩
      exact ⟨x, y, hx, hy, congrArg Prod.fst hcommon, congrArg Prod.snd hcommon⟩

/-- Three processes, one left out; only the first one brings the content that is factored. -/
theorem DistributedMatrix.program_agrees_one_left_out :
    let grid : Grid 3 := ⟨2, 1, by decide, by decide, by decide, fun _ => 0, false⟩
    let q : MatrixRequest := ⟨.whole 1, .absent, .given .symmetric, .absent⟩
    let made : Created 3 Int :=
      ⟨.blank ⟨grid, 2, 2, 1, 1, .double, by decide, by decide, by decide, by decide⟩ .symmetric,
        .serialOnRoot⟩
    let x : Sheet Int := ⟨[2, 2], .ofPrecision .double, #[1, 1, 1, 2]⟩
    let load : Call 3 Int Int Int :=
      .assign (Vector.ofFn fun r => if r.val = 0 then some x else none) .unspecified
    let a := made.matrix.run exactNumerics [load, .cholesky]
    let replies := a.perform exactNumerics .invert
    q.create .standard grid (.whole 2) = .ok made ∧
    (forall r s, ((a.next exactNumerics .invert).part r).state =
        ((a.next exactNumerics .invert).part s).state ∧
      ((a.next exactNumerics .invert).part r).property =
        ((a.next exactNumerics .invert).part s).property) ∧
    ((exists failure, forall r, (replies.get r).result = .error failure) ∨
      (forall r s, exists x y, (replies.get r).result = .ok x ∧
        (replies.get s).result = .ok y ∧ x.eigenvalues? = y.eigenvalues? ∧
        x.measure? = y.measure?)) := by
  intro grid q made x load a replies
  have hmade : q.create .standard grid (.whole 2) = .ok made := rfl
  have hprogram : forall call, call ∈ [load, .cholesky, .invert] ->
      call.Collective exactNumerics made.matrix.layout := by
    intro call hcall
    simp only [List.mem_cons, List.not_mem_nil, or_false] at hcall
    rcases hcall with rfl | rfl | rfl <;> trivial
  exact ⟨hmade, program_agrees exactNumerics rfl hmade [load, .cholesky, .invert] hprogram
    [load, .cholesky] .invert [] rfl⟩

end BlockCyclic
