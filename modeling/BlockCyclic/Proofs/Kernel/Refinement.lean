import BlockCyclic.Proofs.Kernel.Condition
import BlockCyclic.Proofs.Kernel.Eigen
import BlockCyclic.Proofs.Kernel.Exact

/-!
# Distributed kernels refine the serial kernels

All processes of a grid call a kernel alike: with one descriptor, which may deal out its
square matrix in blocks of any sizes, with the same letters and numbers, and each with its
own piece. The serial kernel is a function of the matrix that the first process gathers
before the call, and its result is what the first process would gather after it.
-/

namespace BlockCyclic

variable {n : Nat} {alpha rho : Type}

/-!
# Calls that are alike on all processes
-/

/-- The descriptor of a matrix that is dealt out from the origin of a grid. -/
structure Descriptor.Describes (desc : Descriptor) (rows cols : Nat) : Prop where
  rows : desc.m = rows
  cols : desc.n = cols
  rowBlock : 1 ≤ desc.mb
  colBlock : 1 ≤ desc.nb
  source : desc.rsrc = 0 ∧ desc.csrc = 0

/--
Two descriptors are the same but for what a process has for itself: its handle of the grid,
and the leading dimension of its block.
-/
def Descriptor.LaidOutAs (own desc : Descriptor) : Prop :=
  { own with context := desc.context, lld := desc.lld } = desc

instance (own desc : Descriptor) : Decidable (own.LaidOutAs desc) :=
  inferInstanceAs (Decidable (_ = _))

theorem Descriptor.LaidOutAs.symm {own desc : Descriptor} (h : own.LaidOutAs desc) :
    desc.LaidOutAs own := by
  have hsame := congrArg
    (fun d : Descriptor => { d with context := own.context, lld := own.lld }) h
  exact hsame.symm

theorem Descriptor.LaidOutAs.trans {own desc other : Descriptor} (h : own.LaidOutAs desc)
    (hother : desc.LaidOutAs other) : own.LaidOutAs other := by
  have hsame := congrArg
    (fun d : Descriptor => { d with context := other.context, lld := other.lld }) h
  exact hsame.trans hother

/-- Every process of the grid passes the descriptor as its own, with a block that fits it. -/
structure Grid.Carries (g : Grid n) (p : Precision) (desc : Descriptor)
    (operands : PerProcess n (Operand alpha)) : Prop where
  descriptor : forall r, g.active r = true -> (operands.get r).descriptor.LaidOutAs desc
  context : forall r, g.active r = true -> (operands.get r).descriptor.context = g.context r
  fitting : forall r, g.active r = true -> g.blockFits p r (operands.get r) = true

structure TriangleArgs.Alike (g : Grid n) (p : Precision) (desc : Descriptor) (t : Triangle)
    (args : PerProcess n (TriangleArgs alpha)) : Prop where
  operands : g.Carries p desc (args.map TriangleArgs.operand)
  uplo : forall r, g.active r = true -> (args.get r).uplo = t.letter

structure EigenArgs.Alike (query : WorkspaceQuery) (g : Grid n) (p : Precision) (order : Nat)
    (desc target : Descriptor) (vectors : Bool) (t : Triangle)
    (args : PerProcess n (EigenArgs alpha)) : Prop where
  operands : g.Carries p desc (args.map EigenArgs.operand)
  targets : vectors = true -> g.Carries p target (args.map EigenArgs.vectors)
  jobz : forall r, g.active r = true -> (args.get r).jobz = if vectors then "V" else "N"
  uplo : forall r, g.active r = true -> (args.get r).uplo = t.letter
  values : forall r, g.active r = true -> (args.get r).values.size = order
  workspace : forall r, g.active r = true -> (args.get r).Roomy query g p r

structure ConditionArgs.Alike (g : Grid n) (p : Precision) (desc : Descriptor)
    (t : Triangle) (norm : rho) (args : PerProcess n (ConditionArgs alpha rho)) :
    Prop where
  operands : g.Carries p desc (args.map ConditionArgs.operand)
  uplo : forall r, g.active r = true -> (args.get r).uplo = t.letter
  norm : forall r, g.active r = true -> (args.get r).norm = norm
  workspace : forall r, g.active r = true -> (args.get r).Roomy g r

theorem Triangle.ofLetter?_letter (t : Triangle) : ofLetter? t.letter = some t := by
  cases t with
  | lower => decide
  | upper => decide

/-!
# Alike calls are legal
-/

section

variable {g : Grid n} {p : Precision} {order : Nat} {desc : Descriptor}

theorem Descriptor.distribution_eq {own : Descriptor} (h : own.LaidOutAs desc) :
    own.distribution g.shape = desc.distribution g.shape := by
  have hsame := congrArg (fun d : Descriptor => d.distribution g.shape) h
  exact hsame

theorem Descriptor.onGrid_of_describes {rows cols : Nat} (h : desc.Describes rows cols) :
    (desc.distribution g.shape).OnGrid g.rows g.cols := by
  have hatOrigin : desc.distribution g.shape =
      Distribution.atOrigin desc.shape desc.blockSizes g.shape := by
    unfold distribution Distribution.atOrigin
    rw [h.source.1, h.source.2]
    rfl
  rw [hatOrigin]
  exact Distribution.atOrigin_onGrid (Int.lt_of_lt_of_le Int.one_pos h.rowBlock)
    (Int.lt_of_lt_of_le Int.one_pos h.colBlock) g.rows_pos g.cols_pos

theorem Descriptor.rows_eq_cols (h : desc.Describes order order) :
    (desc.distribution g.shape).rows = (desc.distribution g.shape).cols :=
  h.rows.trans h.cols.symm

theorem Grid.legal_of_carries {rows cols : Nat} (hdesc : desc.Describes rows cols)
    {operands : PerProcess n (Operand alpha)} (h : g.Carries p desc operands) :
    g.Legal p (desc.distribution g.shape) operands where
  onGrid := Descriptor.onGrid_of_describes hdesc
  accepted := fun r hr => by
    have hrow := congrArg DescriptorOf.rsrc (h.descriptor r hr)
    have hcol := congrArg DescriptorOf.csrc (h.descriptor r hr)
    simp only at hrow hcol
    unfold accepts contextOf
    rw [h.context r hr, hrow, hcol, hdesc.source.1, hdesc.source.2, if_pos hr]
    simp only [beq_self_eq_true, Bool.and_self]
  fitting := h.fitting
  meaning := fun r hr => Descriptor.distribution_eq (h.descriptor r hr)

theorem EigenArgs.legal_of_alike {query : WorkspaceQuery} (hdesc : desc.Describes order order)
    {target : Descriptor} (htarget : target.Describes order order) {vectors : Bool}
    {t : Triangle} {args : PerProcess n (EigenArgs alpha)}
    (h : EigenArgs.Alike query g p order desc target vectors t args) :
    EigenArgs.Legal query g p (desc.distribution g.shape) vectors t args where
  operands := Grid.legal_of_carries hdesc h.operands
  square := Descriptor.rows_eq_cols hdesc
  jobz := h.jobz
  uplo := fun r hr => by
    rw [h.uplo r hr]
    exact t.ofLetter?_letter
  values := fun r hr => by
    rw [h.values r hr]
    exact Int.le_of_eq hdesc.cols
  targets := fun hvectors =>
    ⟨target.distribution g.shape, Grid.legal_of_carries htarget (h.targets hvectors)⟩
  workspace := h.workspace

theorem ConditionArgs.legal_of_alike [Zero rho] [Measure rho]
    (hdesc : desc.Describes order order) {t : Triangle} {norm : rho}
    {args : PerProcess n (ConditionArgs alpha rho)}
    (h : ConditionArgs.Alike g p desc t norm args) :
    ConditionArgs.Legal g p (desc.distribution g.shape) args where
  operands := Grid.legal_of_carries hdesc h.operands
  square := Descriptor.rows_eq_cols hdesc
  uplo := fun r hr => by
    rw [h.uplo r hr, t.ofLetter?_letter]
    rfl
  workspace := h.workspace

end

/-!
# What the first process gathers
-/

section

variable [Zero alpha]

def Grid.gathered (g : Grid n) (operands : PerProcess n (Operand alpha)) :
    Option (Dense alpha) :=
  (g.gatherOperands operands).get g.first

def Grid.rewritten (operands : PerProcess n (Operand alpha)) (blocks : Fin n -> Dense alpha) :
    PerProcess n (Operand alpha) :=
  Vector.ofFn fun r => { operands.get r with block := blocks r }

variable {g : Grid n} {p : Precision} {d : Distribution}
  {operands : PerProcess n (Operand alpha)}

theorem Grid.gathered_of_legal (hopen : g.released = false) (h : g.Legal p d operands) :
    g.gathered operands = some (g.assembleOperands d operands) := by
  unfold gathered
  rw [get_gatherOperands hopen h g.active_first, if_pos rfl]

/-- Operands that end with the pieces of a matrix make up this matrix. -/
theorem Grid.gathered_rewritten (hopen : g.released = false) (h : g.Legal p d operands)
    {x : Dense alpha} (hrows : (x.rows : Int) = d.rows) (hcols : (x.cols : Int) = d.cols)
    {blocks : Fin n -> Dense alpha}
    (hblocks : forall r, g.active r = true -> blocks r = cut d x r) :
    g.gathered (rewritten operands blocks) = some x := by
  have hget : forall r, g.active r = true ->
      ((rewritten operands blocks).map Operand.block).get r = cut d x r := by
    intro r hr
    unfold rewritten
    rw [PerProcess.get_map, PerProcess.get_ofFn]
    exact hblocks r hr
  have hpieces : g.HoldsPieces d ((rewritten operands blocks).map Operand.block) := by
    intro r hr
    rw [hget r hr]
    exact memberShape_cut x r
  have hmeaning :
      ((rewritten operands blocks).get g.first).descriptor.distribution g.shape = d := by
    unfold rewritten
    rw [PerProcess.get_ofFn]
    exact h.meaning g.first g.active_first
  unfold gathered gatherOperands
  rw [get_gather h.onGrid hopen g.active_first hmeaning hpieces, if_pos rfl,
    assemble_cut h.onGrid (by omega) (by omega) hget]

theorem Grid.exists_gathered (hopen : g.released = false) {rows cols : Nat}
    {desc : Descriptor} (hdesc : desc.Describes rows cols)
    (h : g.Carries p desc operands) :
    exists x, g.gathered operands = some x ∧
      x = g.assembleOperands (desc.distribution g.shape) operands ∧
      x.rows = rows ∧ x.cols = cols := by
  refine ⟨_, gathered_of_legal hopen (legal_of_carries hdesc h), rfl, ?_, ?_⟩
  · exact (congrArg Int.toNat hdesc.rows).trans (Int.toNat_natCast rows)
  · exact (congrArg Int.toNat hdesc.cols).trans (Int.toNat_natCast cols)

end

/-!
# Refinement of a serial result
-/

section

variable [Zero alpha]

structure Factored.RefinedBy (serial : Factored alpha) (g : Grid n)
    (args : PerProcess n (TriangleArgs alpha)) (results : PerProcess n (KernelResult alpha)) :
    Prop where
  status : forall r, g.active r = true -> (results.get r).status = some serial.status
  success : serial.status = 0 ->
    g.gathered (Grid.rewritten (args.map TriangleArgs.operand) fun r =>
      (results.get r).block) = some serial.matrix
  failure : serial.status ≠ 0 ->
    forall r, (results.get r).block = (args.get r).operand.block

structure Spectrum.RefinedBy (serial : Spectrum alpha) (g : Grid n) (vectors : Bool)
    (args : PerProcess n (EigenArgs alpha)) (results : PerProcess n (EigenResult alpha)) :
    Prop where
  status : forall r, g.active r = true -> (results.get r).status = some serial.status
  values : serial.status = 0 ->
    forall r, g.active r = true -> (results.get r).values = serial.values
  vectors : serial.status = 0 -> vectors = true ->
    g.gathered (Grid.rewritten (args.map EigenArgs.vectors) fun r =>
      (results.get r).vectors) = some serial.vectors
  failure : serial.status ≠ 0 ->
    forall r, (results.get r).values = (args.get r).values ∧
      (results.get r).vectors = (args.get r).vectors.block

end

theorem Grid.status_ne {g : Grid n} {returned : Fin n -> Option Int} {status : Int}
    (hactive : forall r, g.active r = true -> returned r = some status)
    (hinactive : forall r, g.active r = false -> returned r = none) (hne : status ≠ 0)
    (r : Fin n) : returned r ≠ some 0 := by
  cases hr : g.active r with
  | true =>
      rw [hactive r hr]
      exact fun hzero => hne (Option.some.inj hzero)
  | false =>
      rw [hinactive r hr]
      exact (Option.some_ne_none 0).symm

def Triangle.upperOf [Zero alpha] (t : Triangle) (x : Dense alpha) : Dense alpha :=
  match t with
  | lower => x.transpose
  | upper => x

theorem ConditionArgs.upperFactor_eq [Zero alpha] {t : Triangle}
    {a : ConditionArgs alpha rho} (h : a.uplo = t.letter) (x : Dense alpha) :
    a.upperFactor x = t.upperOf x := by
  unfold upperFactor Triangle.upperOf
  rw [h]
  cases t with
  | lower => rfl
  | upper => rfl

namespace Kernel

section

variable [Zero alpha] {g : Grid n} (hopen : g.released = false) {p : Precision}
  {order : Nat} {desc : Descriptor} (hdesc : desc.Describes order order)

include hopen hdesc

theorem onTriangle_refines (routine : String)
    {serial : Triangle -> Dense alpha -> Factored alpha} {t : Triangle}
    (hshape : forall x, x.rows = x.cols -> (serial t x).status = 0 ->
      (serial t x).matrix.rows = x.rows ∧ (serial t x).matrix.cols = x.cols)
    {args : PerProcess n (TriangleArgs alpha)} (h : TriangleArgs.Alike g p desc t args)
    {x : Dense alpha}
    (hx : x = g.assembleOperands (desc.distribution g.shape) (args.map TriangleArgs.operand))
    (hrows : x.rows = order) (hcols : x.cols = order) :
    (serial t x).RefinedBy g args (onTriangle routine serial g p args) := by
  have hlegal := Grid.legal_of_carries hdesc h.operands
  have hsquare := Descriptor.rows_eq_cols (g := g) hdesc
  have huplo : forall r, g.active r = true ->
      Triangle.ofLetter? (args.get r).uplo = some t := by
    intro r hr
    rw [h.uplo r hr]
    exact t.ofLetter?_letter
  have hserial : serial t (g.assembleOperands (desc.distribution g.shape)
      (args.map TriangleArgs.operand)) = serial t x := by rw [← hx]
  have hstatus : forall r, g.active r = true ->
      ((onTriangle routine serial g p args).get r).status = some (serial t x).status :=
    fun r hr => status_onTriangle_of_legal routine hopen hlegal hsquare huplo hserial hr
  constructor
  case status => exact hstatus
  case success =>
    intro hzero
    have hkeeps := hshape x (hrows.trans hcols.symm) hzero
    rw [hrows, hcols] at hkeeps
    have hresultRows : ((serial t x).matrix.rows : Int) = (desc.distribution g.shape).rows := by
      rw [hkeeps.1]
      exact hdesc.rows.symm
    have hresultCols : ((serial t x).matrix.cols : Int) = (desc.distribution g.shape).cols := by
      rw [hkeeps.2]
      exact hdesc.cols.symm
    apply Grid.gathered_rewritten hopen hlegal hresultRows hresultCols
    intro r hr
    exact block_onTriangle_of_legal routine hopen hlegal hsquare huplo hserial hzero
      hresultRows hresultCols hr
  case failure =>
    intro hne r
    apply block_onTriangle_of_status_ne
    exact Grid.status_ne hstatus (fun _ hr => status_onTriangle_of_inactive routine hr) hne r

omit hdesc in
theorem gathered_vectors {k : SerialKernels alpha rho} (hshape : k.KeepsShape)
    {target : Descriptor} (htarget : target.Describes order order) {t : Triangle}
    {args : PerProcess n (EigenArgs alpha)}
    (hcarries : g.Carries p target (args.map EigenArgs.vectors))
    (h : EigenArgs.Legal k.eigenWorkspace g p (desc.distribution g.shape) true t args)
    {x : Dense alpha}
    (hx : x = g.assembleOperands (desc.distribution g.shape) (args.map EigenArgs.operand))
    (hrows : x.rows = order) (hcols : x.cols = order) {r : Fin n} (hr : g.active r = true)
    (hstatus : ((eigen k g p args).get r).status = some 0) :
    g.gathered (Grid.rewritten (args.map EigenArgs.vectors) fun r =>
      ((eigen k g p args).get r).vectors) = some (k.eigen p true t x).vectors := by
  have hserial : k.eigen p true t (g.assembleOperands (desc.distribution g.shape)
      (args.map EigenArgs.operand)) = k.eigen p true t x := by rw [← hx]
  have hzero : (k.eigen p true t x).status = 0 :=
    Option.some.inj ((status_eigen_of_legal hopen h hserial hr).symm.trans hstatus)
  have hkeeps := hshape.vectors p t x (hrows.trans hcols.symm) hzero
  rw [hrows, hcols] at hkeeps
  have hresultRows : ((k.eigen p true t x).vectors.rows : Int) =
      (target.distribution g.shape).rows := by
    rw [hkeeps.1]
    exact htarget.rows.symm
  have hresultCols : ((k.eigen p true t x).vectors.cols : Int) =
      (target.distribution g.shape).cols := by
    rw [hkeeps.2]
    exact htarget.cols.symm
  have hlegal := Grid.legal_of_carries htarget hcarries
  apply Grid.gathered_rewritten hopen hlegal hresultRows hresultCols
  intro s hs
  exact vectors_eigen_of_legal hopen h hserial hzero rfl hlegal hresultRows hresultCols hs

theorem eigen_refines {k : SerialKernels alpha rho} (hshape : k.KeepsShape)
    {target : Descriptor} (htarget : target.Describes order order) {vectors : Bool} {t : Triangle}
    {args : PerProcess n (EigenArgs alpha)}
    (h : EigenArgs.Alike k.eigenWorkspace g p order desc target vectors t args) {x : Dense alpha}
    (hx : x = g.assembleOperands (desc.distribution g.shape) (args.map EigenArgs.operand))
    (hrows : x.rows = order) (hcols : x.cols = order) :
    (k.eigen p vectors t x).RefinedBy g vectors args (eigen k g p args) := by
  have hlegal := EigenArgs.legal_of_alike hdesc htarget h
  have hsquare : x.rows = x.cols := hrows.trans hcols.symm
  have hserial : k.eigen p vectors t (g.assembleOperands (desc.distribution g.shape)
      (args.map EigenArgs.operand)) = k.eigen p vectors t x := by rw [← hx]
  have hstatus : forall r, g.active r = true ->
      ((eigen k g p args).get r).status = some (k.eigen p vectors t x).status :=
    fun r hr => status_eigen_of_legal hopen hlegal hserial hr
  constructor
  case status => exact hstatus
  case values =>
    intro hzero r hr
    have hfits : forall s, g.active s = true ->
        (args.get s).values.size ≤ (k.eigen p vectors t x).values.size := by
      intro s hs
      rw [h.values s hs, hshape.values p vectors t x hsquare hzero, hrows]
    rw [values_eigen_of_legal hopen hlegal hserial hzero hr,
      Communicator.overwrite_of_size_le (hfits g.first g.active_first),
      Communicator.overwrite_of_size_le (hfits r hr)]
  case vectors =>
    intro hzero hvectors
    subst hvectors
    apply gathered_vectors hopen hshape htarget (h.targets rfl) hlegal hx hrows hcols
      g.active_first
    rw [hstatus _ g.active_first, hzero]
  case failure =>
    intro hne r
    apply buffers_eigen_of_status_ne
    exact Grid.status_ne hstatus (fun _ hr => status_eigen_of_inactive hr) hne r

theorem condition_refines [Zero rho] [Measure rho] {k : SerialKernels alpha rho}
    {t : Triangle} {norm : rho} {args : PerProcess n (ConditionArgs alpha rho)}
    (h : ConditionArgs.Alike g p desc t norm args) {x : Dense alpha}
    (hx : x = g.assembleOperands (desc.distribution g.shape)
      (args.map ConditionArgs.operand)) {r : Fin n} (hr : g.active r = true) :
    ((condition k g p args).get r).outcome =
      some (if Measure.isNorm norm then k.condition p (t.upperOf x) norm else (0, -4)) := by
  have hlegal := ConditionArgs.legal_of_alike hdesc h
  cases hnorm : Measure.isNorm norm with
  | true =>
      rw [if_pos rfl, hx, ← ConditionArgs.upperFactor_eq (h.uplo g.first g.active_first),
        ← h.norm g.first g.active_first]
      apply outcome_condition_of_legal hopen hlegal _ hr
      intro s hs
      rw [h.norm s hs]
      exact hnorm
  | false =>
      apply outcome_condition_of_refused hopen hlegal g.active_first _ hr
      rw [h.norm g.first g.active_first]
      exact hnorm

end

/-!
# All kernels

A norm that no matrix has is the fifth argument of a serial estimate, and the fourth of the
distributed one, which looks at it first and passes on legal norms only. The two statuses
differ there, and everywhere else they are equal.
-/

theorem condition_status_differs :
    let g : Grid 1 := ⟨1, 1, by decide, by decide, by decide, fun _ => 0, false⟩
    let desc := Descriptor.create (1, 1) (1, 1) 0 1 (0, 0)
    let args : PerProcess 1 (ConditionArgs Int Int) :=
      #v[⟨"L", ⟨.ofPrecision .double, Dense.unit 1, desc⟩, -1, 8, 1⟩]
    desc.Describes 1 1 ∧ ConditionArgs.Alike g .double desc .lower (-1) args ∧
    (g.gathered (args.map ConditionArgs.operand)).map
      (fun x => unitKernels.condition .double (Triangle.lower.upperOf x) (-1)) =
        some (0, -5) ∧
    ((condition unitKernels g .double args).get 0).outcome = some (0, -4) := by
  intro g desc args
  refine ⟨?_, ?_, ?_, ?_⟩
  · exact ⟨rfl, rfl, by decide, by decide, rfl, rfl⟩
  · exact ⟨⟨by decide +kernel, by decide +kernel, by decide +kernel⟩, by decide +kernel,
      by decide +kernel, by unfold ConditionArgs.Roomy; decide +kernel⟩
  · decide +kernel
  · decide +kernel

theorem refine_serial {n : Nat} {alpha rho : Type} [Zero alpha] [Zero rho] [Measure rho]
    {k : SerialKernels alpha rho} (hshape : k.KeepsShape) {g : Grid n}
    (hopen : g.released = false) (p : Precision) {order : Nat} {desc : Descriptor}
    (hdesc : desc.Describes order order) (t : Triangle) :
    (forall args : PerProcess n (TriangleArgs alpha), TriangleArgs.Alike g p desc t args ->
      exists x, g.gathered (args.map TriangleArgs.operand) = some x ∧
        (k.factor p t x).RefinedBy g args (factor k g p args) ∧
        (k.invert p t x).RefinedBy g args (invert k g p args)) ∧
    (forall (vectors : Bool) (target : Descriptor) (args : PerProcess n (EigenArgs alpha)),
      target.Describes order order ->
      EigenArgs.Alike k.eigenWorkspace g p order desc target vectors t args ->
      exists x, g.gathered (args.map EigenArgs.operand) = some x ∧
        (k.eigen p vectors t x).RefinedBy g vectors args (eigen k g p args)) ∧
    (forall (norm : rho) (args : PerProcess n (ConditionArgs alpha rho)),
      ConditionArgs.Alike g p desc t norm args ->
      exists x, g.gathered (args.map ConditionArgs.operand) = some x ∧
        forall r, g.active r = true ->
          ((condition k g p args).get r).outcome =
            some (if Measure.isNorm norm then k.condition p (t.upperOf x) norm
              else (0, -4))) := by
  refine ⟨?_, ?_, ?_⟩
  · intro args h
    rcases Grid.exists_gathered hopen hdesc h.operands with
      ⟨x, hgathered, hx, hrows, hcols⟩
    refine ⟨x, hgathered, ?_, ?_⟩
    · exact onTriangle_refines hopen hdesc _ (hshape.factor p t) h hx hrows hcols
    · exact onTriangle_refines hopen hdesc _ (hshape.invert p t) h hx hrows hcols
  · intro vectors target args htarget h
    rcases Grid.exists_gathered hopen hdesc h.operands with
      ⟨x, hgathered, hx, hrows, hcols⟩
    exact ⟨x, hgathered, eigen_refines hopen hdesc hshape htarget h hx hrows hcols⟩
  · intro norm args h
    rcases Grid.exists_gathered hopen hdesc h.operands with ⟨x, hgathered, hx, _, _⟩
    exact ⟨x, hgathered, fun r hr => condition_refines hopen hdesc h hx hr⟩

/-- A hundred places are workspace enough for the unit matrix of order two. -/
theorem roomy_of_hundred {g : Grid n} {r : Fin n} {a : EigenArgs alpha}
    (horder : a.operand.descriptor.n ≤ 2) (hwork : 100 ≤ a.work) (hiwork : 100 ≤ a.iwork) :
    a.Roomy unitKernels.eigenWorkspace g .double r := by
  have hformula : forall vectors lower,
      (Eigen.workspace .double vectors lower a.operand.descriptor.n).1.ceil ≤ 100 ∧
        (Eigen.workspace .double vectors lower a.operand.descriptor.n).2 ≤ 100 := by
    intro vectors lower
    unfold Eigen.workspace
    by_cases hneg : a.operand.descriptor.n < 0
    · rw [if_pos hneg]
      decide +kernel
    · by_cases hone : a.operand.descriptor.n ≤ 1
      · rw [if_neg hneg, if_pos hone]
        decide +kernel
      · rw [show a.operand.descriptor.n = 2 by omega]
        cases vectors <;> decide +kernel
  have hneeded : (a.neededWorkspace unitKernels.eigenWorkspace g .double r).1 ≤ 100 ∧
      (a.neededWorkspace unitKernels.eigenWorkspace g .double r).2 ≤ 100 := by
    unfold EigenArgs.neededWorkspace eigenWorkspace
    split
    · exact hformula (a.jobz == "V") (a.uplo == "L")
    · decide
  exact ⟨Int.le_trans hneeded.1 hwork, Int.le_trans hneeded.2 hiwork⟩

/-- The unit matrix with a row on each of two processes, and a third one left out. -/
theorem refine_serial_unit :
    let g : Grid 3 := ⟨2, 1, by decide, by decide, by decide, fun r => r.val, false⟩
    let desc (r : Fin 3) := Descriptor.create (2, 2) (1, 2) (g.contextOf r) 1 (0, 0)
    let target (r : Fin 3) (rows : Int) :=
      Descriptor.create (2, 2) (2, 1) (g.contextOf r) rows (0, 0)
    let rows : PerProcess 3 (Operand Int) := #v[
      ⟨.ofPrecision .double, Dense.ofFn 1 2 fun _ j => if j = 0 then 1 else 0, desc 0⟩,
      ⟨.ofPrecision .double, Dense.ofFn 1 2 fun _ j => if j = 1 then 1 else 0, desc 1⟩,
      ⟨.ofPrecision .double, Dense.zeros 0 0, desc 2⟩]
    let vectors : PerProcess 3 (Operand Int) := #v[
      ⟨.ofPrecision .double, Dense.zeros 2 2, target 0 2⟩,
      ⟨.ofPrecision .double, Dense.zeros 0 2, target 1 0⟩,
      ⟨.ofPrecision .double, Dense.zeros 0 0, target 2 0⟩]
    let factorArgs : PerProcess 3 (TriangleArgs Int) := Vector.ofFn fun r =>
      ⟨"L", rows.get r⟩
    let eigenArgs : PerProcess 3 (EigenArgs Int) := Vector.ofFn fun r =>
      ⟨"V", "L", rows.get r, #[0, 0], vectors.get r, 100, 100⟩
    let conditionArgs : PerProcess 3 (ConditionArgs Int Int) := Vector.ofFn fun r =>
      ⟨"L", rows.get r, 1, 100, 100⟩
    unitKernels.KeepsShape ∧ g.released = false ∧ (desc 0).Describes 2 2 ∧
    (target 0 2).Describes 2 2 ∧
    (forall r, g.active r = true ->
      ((factor unitKernels g .double factorArgs).get r).status = some 0 ∧
      ((eigen unitKernels g .double eigenArgs).get r).values = #[1, 1] ∧
      ((condition unitKernels g .double conditionArgs).get r).outcome = some (1, 0)) ∧
    (g.gathered (Grid.rewritten (eigenArgs.map EigenArgs.vectors) fun r =>
      ((eigen unitKernels g .double eigenArgs).get r).vectors)).map Dense.isUnit =
        some true := by
  intro g desc target rows vectors factorArgs eigenArgs conditionArgs
  have hdesc : (desc 0).Describes 2 2 := ⟨rfl, rfl, by decide, by decide, rfl, rfl⟩
  have htarget : (target 0 2).Describes 2 2 := ⟨rfl, rfl, by decide, by decide, rfl, rfl⟩
  have hrows : g.Carries .double (desc 0) rows :=
    ⟨by decide +kernel, by decide +kernel, by decide +kernel⟩
  have hoperands : factorArgs.map TriangleArgs.operand = rows ∧
      eigenArgs.map EigenArgs.operand = rows ∧
      conditionArgs.map ConditionArgs.operand = rows := by
    refine ⟨?_, ?_, ?_⟩ <;> apply PerProcess.ext <;> intro r <;>
      rw [PerProcess.get_map, PerProcess.get_ofFn]
  have hfactorArgs : TriangleArgs.Alike g .double (desc 0) .lower factorArgs :=
    ⟨by rwa [hoperands.1], by decide +kernel⟩
  have heigenArgs : EigenArgs.Alike unitKernels.eigenWorkspace g .double 2 (desc 0)
      (target 0 2) true .lower eigenArgs :=
    { operands := by rwa [hoperands.2.1]
      targets := fun _ => ⟨by decide +kernel, by decide +kernel, by decide +kernel⟩
      jobz := by decide +kernel
      uplo := by decide +kernel
      values := by decide +kernel
      workspace := fun r hr => by
        have horder : forall r, g.active r = true ->
            (eigenArgs.get r).operand.descriptor.n ≤ 2 ∧ 100 ≤ (eigenArgs.get r).work ∧
              100 ≤ (eigenArgs.get r).iwork := by
          decide +kernel
        exact roomy_of_hundred (horder r hr).1 (horder r hr).2.1 (horder r hr).2.2 }
  have hconditionArgs : ConditionArgs.Alike g .double (desc 0) .lower 1 conditionArgs :=
    { operands := by rwa [hoperands.2.2]
      uplo := by decide +kernel
      norm := by decide +kernel
      workspace := by
        unfold ConditionArgs.Roomy
        decide +kernel }
  rcases refine_serial unitKernels_keepsShape (rfl : g.released = false) .double hdesc .lower
    with ⟨hfactor, heigen, hcondition⟩
  rcases hfactor factorArgs hfactorArgs with ⟨x, hx, hfactored, _⟩
  rcases heigen true (target 0 2) eigenArgs htarget heigenArgs with ⟨y, hy, hsolved⟩
  rcases hcondition 1 conditionArgs hconditionArgs with ⟨z, hz, hestimated⟩
  let unit := g.assembleOperands ((desc 0).distribution g.shape) rows
  have hunit : g.gathered rows = some unit :=
    Grid.gathered_of_legal rfl (Grid.legal_of_carries hdesc hrows)
  rw [hoperands.1, hunit] at hx
  rw [hoperands.2.1, hunit] at hy
  rw [hoperands.2.2, hunit] at hz
  obtain rfl : unit = x := Option.some.inj hx
  obtain rfl : unit = y := Option.some.inj hy
  obtain rfl : unit = z := Option.some.inj hz
  have hfactorStatus : (unitKernels.factor .double .lower unit).status = 0 := by
    decide +kernel
  have heigenStatus : (unitKernels.eigen .double true .lower unit).status = 0 := by
    decide +kernel
  refine ⟨unitKernels_keepsShape, rfl, hdesc, htarget, ?_, ?_⟩
  · intro r hr
    refine ⟨?_, ?_, ?_⟩
    · rw [hfactored.status r hr, hfactorStatus]
    · rw [hsolved.values heigenStatus r hr]
      decide +kernel
    · rw [hestimated r hr]
      decide +kernel
  · rw [hsolved.vectors heigenStatus rfl, Option.map_some, Option.some.injEq]
    decide +kernel

end Kernel

end BlockCyclic
