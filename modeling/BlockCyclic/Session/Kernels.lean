import BlockCyclic.Kernel.Loose
import BlockCyclic.Session.Matrices

/-!
# Turns with single kernels

A kernel is called on the local blocks of a matrix with its own descriptor, or with
arguments that are altered on some processes. It writes into the blocks it is given;
the state of a matrix does not change.
-/

namespace BlockCyclic

variable {n : Nat}

/-- Arguments that differ from those that belong to the matrix; what is not given does not. -/
structure Alterations where
  uplo : Option Argument
  jobz : Option Argument
  /-- Element type of a copy that is passed instead of the block. -/
  cast : Option Argument
  /-- Extents of the leading part that is passed instead of the block. -/
  leading : Option Argument
  descriptor : List (String × Argument)
  vectorsDescriptor : List (String × Argument)
  targetDescriptor : List (String × Argument)
  targetCast : Option Argument
  /-- Length of the buffer for eigenvalues. -/
  values : Option Argument
  work : Option Argument
  workAdded : Option Argument
  iwork : Option Argument
  iworkAdded : Option Argument

namespace Alterations

def none : Alterations where
  uplo := .none
  jobz := .none
  cast := .none
  leading := .none
  descriptor := []
  vectorsDescriptor := []
  targetDescriptor := []
  targetCast := .none
  values := .none
  work := .none
  workAdded := .none
  iwork := .none
  iworkAdded := .none

/-- An option letter; what is no text is no letter. -/
def letter (given : Option Argument) (usual : String) : String :=
  match given with
  | .none => usual
  | some (.text s) => s
  | some _ => ""

/-!
# Descriptors
-/

def shifted (context given : Argument) : Except Failure Argument := do
  match <- Extent.single.add (<- context.plainNumber) (<- given.plainNumber) with
  | .int i => return .whole i
  | .real x => return .fraction x

/-- A descriptor with fields replaced; the context is shifted. -/
def alter (d : LooseDescriptor) (fields : List (String × Argument)) :
    Except Failure LooseDescriptor := do
  let given <- fields.mapM fun f => do
    if f.1 = "context" then return (f.1, <- shifted d.context f.2) else return f
  d.setFields given

/-!
# Blocks
-/

def typeAfter (cast : Option Argument) (p : Precision) : Except Failure ElementType :=
  match cast with
  | .none => .ok (.ofPrecision p)
  | some a => ElementType.ofArgument a

/-- An extent that counts from the end where it is negative; an absent one keeps all. -/
def clip (extent : Nat) (a : Argument) : Except Failure Nat :=
  match a with
  | .absent => .ok extent
  | a =>
      match a.integer? with
      | some k => .ok (if k < 0 then (extent + k).toNat else k.toNat)
      | .none => .error .unusable

def part (a : Alterations) (x : Dense Float) : Except Failure (Dense Float) :=
  match a.leading with
  | some e => do
      let (rows, cols) <- e.two
      return x.leading (<- clip x.rows rows) (<- clip x.cols cols)
  | .none => .ok x

def writeBack (a : Alterations) (old new : Dense Float) : Dense Float :=
  match a.cast with
  | some _ => old
  | .none =>
      match a.leading with
      | .none => new
      | some _ =>
          old.mapPlaces fun i j x => if i < new.rows ∧ j < new.cols then new.get i j else x

/-!
# Buffers
-/

/-- A length that is given, or the usual one, with an addition. -/
def size (given added : Option Argument) (usual : Int) (bytes : Nat) : Except Failure Int := do
  let base <- (given.map Argument.integer?).getD (some usual) |> required
  let more <- (added.map Argument.integer?).getD (some 0) |> required
  bufferLength bytes (base + more)
where
  required (x : Option Int) : Except Failure Int :=
    match x with
    | some i => .ok i
    | .none => .error .unusable

end Alterations

structure KernelCall where
  kernel : KernelName
  /-- The matrix that receives a transpose. -/
  target : Argument
  /-- The matrix that receives eigenvectors; without one there are none. -/
  vectors : Argument
  norm : Argument
  altered : Alterations
  /-- The processes whose arguments are altered; all, if none are listed. -/
  only : Option (List Argument)

namespace KernelCall

def alterations (c : KernelCall) (r : Fin n) : Alterations :=
  match c.only with
  | none => c.altered
  | some ranks => if ranks.any fun a => a.equals (.whole r.val) then c.altered else .none

end KernelCall

/-!
# Arguments of one process
-/

structure Prepared (beta : Type) where
  /-- The arguments, with descriptors of integers. -/
  args : beta
  /-- Whether these arguments are the ones that were given, and can be computed with. -/
  plain : Bool
  /-- The status of the arguments as they were given. -/
  status : Except Failure Int
  /-- What keeps a matrix from being moved, once all statuses are zero. -/
  moves : Unit -> Except Failure Unit

namespace Held

/-- Arguments on a process that is left out are not looked at. -/
def alterationsOn (h : Held n) (c : KernelCall) (r : Fin n) : Alterations :=
  if h.matrix.layout.grid.active r then c.alterations r else .none

def descriptorOn (h : Held n) (r : Fin n) : LooseDescriptor :=
  .ofDescriptor (h.matrix.layout.descriptor r)

def operandFor (h : Held n) (a : Alterations) (r : Fin n) :
    Except Failure (LooseOperand Float) := do
  let type <- Alterations.typeAfter a.cast h.precision
  let block <- a.part (h.matrix.part r).block
  return ⟨type, block, <- Alterations.alter (h.descriptorOn r) a.descriptor⟩

def triangleArgs (h : Held n) (c : KernelCall) (r : Fin n) :
    Except Failure (Prepared (TriangleArgs Float)) := do
  let a := h.alterationsOn c r
  let g := h.matrix.layout.grid
  let uplo := Alterations.letter a.uplo "L"
  let o <- h.operandFor a r
  return {
    args := ⟨uplo, o.truncated⟩
    plain := o.descriptor.movesFreely g
    status := o.checkTriangle uplo g h.precision r
    moves := fun _ => o.descriptor.checkGather g }

def transposeArgs (h target : Held n) (c : KernelCall) (r : Fin n) :
    Except Failure (Prepared (TransposeArgs Float)) := do
  let a := h.alterationsOn c r
  let g := h.matrix.layout.grid
  let source <- h.operandFor a r
  let type <- Alterations.typeAfter a.targetCast target.precision
  let d <- Alterations.alter (target.descriptorOn r) a.targetDescriptor
  let o : LooseOperand Float := ⟨type, (target.matrix.part r).block, d⟩
  let shape := source.truncated.descriptor.shape
  return {
    args := ⟨source.truncated, o.truncated⟩
    plain := source.descriptor.movesFreely g && d.movesFreely g
    status := source.checkTranspose o g h.precision r
    moves := fun _ => do
      source.descriptor.checkGather g
      d.checkScatter g shape.2 shape.1 }

/-- No spectrum is longer than this; a longer buffer for eigenvalues is no better. -/
def longestSpectrum : Nat := Nat.pow 2 20

/-- The operand that receives eigenvectors; without a matrix for them it is empty. -/
def vectorsFor (h : Held n) (vectors : Option (Held n)) (a : Alterations) (r : Fin n)
    (usual : LooseDescriptor) : Except Failure (LooseOperand Float) := do
  match vectors with
  | some z =>
      let d <- Alterations.alter (z.descriptorOn r) a.vectorsDescriptor
      return ⟨.ofPrecision z.precision, (z.matrix.part r).block, d⟩
  | none =>
      let d <- Alterations.alter usual a.vectorsDescriptor
      return ⟨.ofPrecision h.precision, Dense.zeros 0 0, d⟩

def eigenArgs (h : Held n) (vectors : Option (Held n)) (c : KernelCall) (r : Fin n) :
    Except Failure (Prepared (EigenArgs Float)) := do
  let a := h.alterationsOn c r
  let l := h.matrix.layout
  let jobz := Alterations.letter a.jobz "N"
  let operand <- h.operandFor a r
  let values <- Alterations.size a.values none l.cols l.entryBytes
  let target <- h.vectorsFor vectors a r operand.descriptor
  let uplo := Alterations.letter a.uplo "L"
  let needed := Kernel.eigenWorkspace machineKernels.eigenWorkspace l.grid h.precision r jobz
    uplo (l.descriptor r)
  let work <- Alterations.size a.work a.workAdded needed.1 l.entryBytes
  let iwork <- Alterations.size a.iwork a.iworkAdded needed.2 4
  let args : LooseEigenArgs Float :=
    { jobz := jobz
      uplo := uplo
      operand := operand
      values := Array.replicate (min values.toNat (max l.cols longestSpectrum)) 0.0
      vectors := target
      work := work
      iwork := iwork }
  let vectorsMove := jobz != "V" || target.descriptor.movesFreely l.grid
  return {
    args := args.truncated
    plain := operand.descriptor.movesFreely l.grid && vectorsMove
    status := args.check machineKernels.eigenWorkspace l.grid h.precision r
    moves := fun _ => args.checkMoves l.grid }

def conditionArgs (h : Held n) (c : KernelCall) (r : Fin n) :
    Except Failure (Prepared (ConditionArgs Float Float)) := do
  let a := h.alterationsOn c r
  let l := h.matrix.layout
  let operand <- h.operandFor a r
  let needed :=
    if l.grid.active r then Kernel.conditionWorkspace l.grid r (l.descriptor r) else (1, 1)
  let work <- Alterations.size a.work a.workAdded needed.1 l.entryBytes
  let iwork <- Alterations.size a.iwork a.iworkAdded needed.2 4
  let args : LooseConditionArgs Float :=
    ⟨Alterations.letter a.uplo "L", operand, c.norm, work, iwork⟩
  let norm := (c.norm.number?).map Number.double
  return {
    args := args.truncated
    plain := operand.descriptor.movesFreely l.grid && norm.any Except.isOk
    status := args.check l.grid h.precision r
    moves := fun _ => args.checkMoves l.grid }

end Held

/-!
# Running a kernel
-/

namespace Grid

/-- A failure where a process of the grid has one, and a report for its other processes. -/
def answers {beta : Type} (g : Grid n) (outcomes : PerProcess n (Except Failure beta))
    (report : Report) : Fin n -> Except Failure Report :=
  fun r => if g.active r then (outcomes.get r).map fun _ => report else .ok .nothing

end Grid

namespace Session

def allOk {beta : Type} (outcomes : PerProcess n (Except Failure beta)) :
    Option (PerProcess n beta) :=
  let all := outcomes.toList.filterMap Except.toOption
  if h : all.length = n then some ⟨all.toArray, by simpa using h⟩ else none

/--
The turn of a kernel. Arguments that are plain are given to it as they are. Else the
processes agree on the least of their statuses first, unless one of them has none, and
go on only where a matrix can be moved.
-/
def withArgs {beta : Type} (s : Session n) (g : Grid n)
    (args : PerProcess n (Except Failure (Prepared beta))) (refused : Int -> Report)
    (run : PerProcess n beta -> Turn n) : Turn n :=
  match allOk args with
  | none => .each s (g.answers args .nothing)
  | some all =>
      if (List.finRange n).all fun r => !g.active r || (all.get r).plain then
        run (all.map Prepared.args)
      else
        let statuses : PerProcess n (Except Failure Int) :=
          Vector.ofFn fun r => if g.active r then (all.get r).status else .ok 0
        match allOk statuses with
        | none => .each s (g.answers statuses .nothing)
        | some known =>
            let agreed := known.toList.foldl min 0
            if agreed ≠ 0 then .each s (g.answers args (refused agreed))
            else
              let moves : PerProcess n (Except Failure Unit) :=
                Vector.ofFn fun r => if g.active r then (all.get r).moves () else .ok ()
              match allOk moves with
              | none => .each s (g.answers moves .nothing)
              | some _ => run (all.map Prepared.args)

def statusReport (status : Option Int) : Report :=
  .option (status.map Report.whole)

def replaceBlocks (s : Session n) (name : String) (f : Fin n -> Dense Float -> Dense Float) :
    Session n :=
  match s.matrices.lookup name with
  | none => s
  | some h =>
      let parts := Vector.ofFn fun r =>
        let p := h.matrix.part r
        { p with block := f r p.block }
      s.keep name { h with matrix := { h.matrix with parts := parts } }

def runTriangle (s : Session n) (name : String) (h : Held n) (c : KernelCall)
    (kernel : Grid n -> Precision -> PerProcess n (TriangleArgs Float) ->
      PerProcess n (KernelResult Float)) : Turn n :=
  let g := h.matrix.layout.grid
  s.withArgs g (Vector.ofFn (h.triangleArgs c)) .whole fun args =>
    let results := kernel g h.precision args
    { session := s.replaceBlocks name fun r old =>
        (h.alterationsOn c r).writeBack old (results.get r).block
      results := results.map fun t => .ok (statusReport t.status)
      logs := results.map KernelResult.log }

def namedMatrix (s : Session n) (a : Argument) : Except Failure (String × Held n) :=
  match a with
  | .text name =>
      match s.matrices.lookup name with
      | some h => .ok (name, h)
      | none => .error .unknownName
  | .list _ | .record _ => .error .unusable
  | _ => .error .unknownName

def runTranspose (s : Session n) (h : Held n) (c : KernelCall) : Turn n :=
  let g := h.matrix.layout.grid
  match s.namedMatrix c.target with
  | .error failure => .each s fun r => if g.active r then .error failure else .ok .nothing
  | .ok (name, target) =>
      s.withArgs g (Vector.ofFn (h.transposeArgs target c)) .whole fun args =>
        let results := Kernel.transpose g h.precision args
        { session := s.replaceBlocks name fun r old =>
            match (h.alterationsOn c r).targetCast with
            | some _ => old
            | none => (results.get r).block
          results := results.map fun t => .ok (statusReport t.status)
          logs := results.map KernelResult.log }

def eigenOutcome (status : Int) (values : Report) : Report :=
  .record [("status", .whole status), ("w", values)]

def eigenReport (h : Held n) (t : EigenResult Float) : Report :=
  match t.status with
  | none => .nothing
  | some status =>
      eigenOutcome status
        (if status = 0 then .record (Report.computedList h.digits t.values.toList) else .nothing)

def eigenAnswer (h : Held n) (buffers : PerProcess n (Array Float))
    (results : PerProcess n (EigenResult Float)) (r : Fin n) : Except Failure Report :=
  let t := results.get r
  if t.status = some 0 && !h.matrix.layout.grid.gridComm.bufferHolds 0 buffers r then
    .error .exchange
  else .ok (eigenReport h t)

def runEigenInto (s : Session n) (h : Held n) (c : KernelCall)
    (target : Option (String × Held n)) : Turn n :=
  let g := h.matrix.layout.grid
  let args := Vector.ofFn (h.eigenArgs (target.map Prod.snd) c)
  s.withArgs g args (fun status => eigenOutcome status .nothing) fun args =>
    let results := Kernel.eigen machineKernels g h.precision args
    let session :=
      match target with
      | some (name, _) => s.replaceBlocks name fun r _ => (results.get r).vectors
      | none => s
    { session := session
      results := Vector.ofFn (eigenAnswer h (args.map EigenArgs.values) results)
      logs := results.map EigenResult.log }

def runEigen (s : Session n) (h : Held n) (c : KernelCall) : Turn n :=
  match c.vectors with
  | .absent => s.runEigenInto h c none
  | vectors =>
      match s.namedMatrix vectors with
      | .ok target => s.runEigenInto h c (some target)
      | .error failure =>
          .each s fun r =>
            if h.matrix.layout.grid.active r then .error failure else .ok .nothing

def estimateReport (h : Held n) (estimate : Float) (status : Int) : Report :=
  .list [.scientific h.digits estimate, .whole status]

def runCondition (s : Session n) (h : Held n) (c : KernelCall) : Turn n :=
  let g := h.matrix.layout.grid
  s.withArgs g (Vector.ofFn (h.conditionArgs c)) (estimateReport h 0.0) fun args =>
    let results := Kernel.condition machineKernels g h.precision args
    { session := s
      results := results.map fun t =>
        .ok (.option (t.outcome.map fun o => estimateReport h o.1 o.2))
      logs := results.map ConditionResult.log }

def runWorkspace (s : Session n) (h : Held n) (c : KernelCall)
    (sizes : Fin n -> Alterations -> LooseDescriptor -> Except Failure (Number × Number)) :
    Turn n :=
  .each s fun r =>
    if h.matrix.layout.grid.active r then do
      let a := c.alterations r
      let operand <- h.operandFor a r
      let needed <- sizes r a operand.descriptor
      return .numbers [needed.1, needed.2]
    else .ok .nothing

def runTogether (s : Session n) (h : Held n) (run : Unit -> Turn n) : Turn n :=
  let g := h.matrix.layout.grid
  if (List.finRange n).all fun r => !g.active r || h.present.get r then run ()
  else .each s fun r => if g.active r then .error .exchange else .ok .nothing

def runKernel (s : Session n) (name : String) (c : KernelCall) : Turn n :=
  s.withMatrix name fun h =>
    let g := h.matrix.layout.grid
    match c.kernel with
    | .factor =>
        s.runTogether h fun _ => s.runTriangle name h c (Kernel.factor machineKernels)
    | .invert =>
        s.runTogether h fun _ => s.runTriangle name h c (Kernel.invert machineKernels)
    | .transpose => s.runTogether h fun _ => s.runTranspose h c
    | .eigen => s.runTogether h fun _ => s.runEigen h c
    | .condition => s.runTogether h fun _ => s.runCondition h c
    | .eigenWorkspace =>
        s.runWorkspace h c fun r a d =>
          (d.eigenWorkspace machineKernels.eigenWorkspace g h.precision r
            (Alterations.letter a.jobz "N") (Alterations.letter a.uplo "L")).map fun e =>
              (.int e.1, .int e.2)
    | .conditionWorkspace => s.runWorkspace h c fun r _ d => d.conditionWorkspace g r

end Session
end BlockCyclic
