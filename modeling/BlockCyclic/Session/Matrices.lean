import BlockCyclic.Figure
import BlockCyclic.Generator
import BlockCyclic.Matrix.Layout
import BlockCyclic.Session

/-!
# Turns with matrices

Creating and loading matrices, reading them as a whole or element by element, and
their factorizations, eigenvalues and norms.
-/

namespace BlockCyclic

variable {n : Nat}

/-!
# Reports on content
-/

namespace Dense

/-- The place that decides on the sign of a column: the first one near the largest magnitude. -/
def signRow (x : Dense Float) (j : Nat) : Nat :=
  let column := (List.range x.rows).map fun i => x.get i j
  let largest := column.foldl (fun m v => if m < v.abs then v.abs else m) 0.0
  column.findIdx fun v => (1.0 - 1.0e-3) * largest ≤ v.abs

def signNormalised (x : Dense Float) : Dense Float :=
  let flips := (Array.range x.cols).map fun j => decide (x.get (x.signRow j) j < 0.0)
  x.mapPlaces fun _ j v => if flips.getD j false then -v else v

/-- The symmetric matrix with the given eigenvalues and the columns as eigenvectors. -/
def recomposed (x : Dense Float) (values : Array Float) : Dense Float :=
  Dense.ofFn x.rows x.rows fun i j =>
    (List.range x.cols).foldl (fun s k => s + x.get i k * values.getD k 0.0 * x.get j k) 0.0

end Dense

namespace Held

def precision (h : Held n) : Precision :=
  h.matrix.layout.precision

def digits (h : Held n) : Nat :=
  h.precision.comparedDigits

def wholeReport (h : Held n) (exact : Bool) (r : Fin n) (x : Dense Float) : Report :=
  let shown := if (h.matrix.part r).state = .eigenvectors then x.signNormalised else x
  .contentOr exact h.precision shown.entries.toList shown

def localReport (h : Held n) (exact : Bool) (r : Fin n) : Report :=
  let p := h.matrix.part r
  if p.state = .eigenvalues then .text "undefined"
  else
    let shown := if p.state = .eigenvectors then p.block.map Float.abs else p.block
    let all := h.matrix.blocks.toList.flatMap fun b => b.entries.toList
    .contentOr exact h.precision all shown

def normReport (h : Held n) (r : Fin n) (value : Float) : Report :=
  let significant := if (h.matrix.part r).state = .matrix then 12 else h.digits
  .scientific significant value

def eigenvaluesReport (h : Held n) (values : Array Float) : Report :=
  .record (("dtype", .text h.precision.name) :: Report.computedList h.digits values.toList)

def answerReport (h : Held n) (exact : Bool) (r : Fin n) : Answer Float Float -> Report
  | .done => .nothing
  | .content x => .option (x.map (h.wholeReport exact r))
  | .eigenvalues values => h.eigenvaluesReport values
  | .measure value => .scientific h.digits value

/-- The descriptor as it is shown; the identity of the grid is not. -/
def descriptorReport (d : Descriptor) : Report :=
  .wholes [d.dtype, d.m, d.n, d.mb, d.nb, d.rsrc, d.csrc, d.lld]

def report (h : Held n) (r : Fin n) : Report :=
  let l := h.matrix.layout
  let d := l.descriptor r
  let block := (h.matrix.part r).block
  .record
    [("global_shape", .pair l.shape),
      ("shape", .pair l.shape),
      ("mn", .pair l.shape),
      ("block_sizes", .pair l.blockSizes),
      ("mbnb", .pair l.blockSizes),
      ("local_shape", .natPair (l.localShape r)),
      ("local_mn", .natPair (l.localShape r)),
      ("array_shape", .natPair (block.rows, block.cols)),
      ("f_contiguous", .truth true),
      ("dtype", .text h.precision.name),
      ("array_dtype", .text h.precision.name),
      ("uplo", .text Triangle.lower.letter),
      ("backend", .text h.backend.name),
      ("descriptor", descriptorReport d),
      ("context_matches", .truth (d.context == l.grid.contextOf r)),
      ("same_grid", .truth true)]

end Held

/-!
# Matrices on some processes
-/

def DistributedMatrix.blankOn (present : PerProcess n Bool) (layout : Layout n)
    (property : Property) : DistributedMatrix n Float where
  layout := layout
  parts := Vector.ofFn fun r =>
    let e := if present.get r then layout.localShape r else (0, 0)
    { block := Dense.zeros e.1 e.2
      state := .uninitialized
      property := property
      freshProperty := property }

/-- Selected content as nested lists; a truth value among the subscripts adds an axis. -/
def Selected.report (p : Precision) : Selected Float -> Report
  | .element x => .moved p x
  | .row xs => .list [.list (xs.map (Report.moved p))]
  | .everything rows => .list [.rows (Report.moved p) rows]
  | .nothing => .list []

namespace Session

/-!
# Creating and loading
-/

def createMatrix (s : Session n) (name grid : String) (shape : Argument) (q : MatrixRequest) :
    Turn n :=
  s.withGrid grid fun g =>
    match q.outline s.settings g shape with
    | .error failure => .fail s failure
    | .ok (l, property) =>
        let verdicts : PerProcess n (Except Failure Backend) := Vector.ofFn fun r => do
          l.checkRoom r
          q.chosenBackend s.settings
        let present := verdicts.map Except.isOk
        let results : PerProcess n (Except Failure Report) := Vector.ofFn fun r =>
          (verdicts.get r).map fun _ => .natPair (l.localShape r)
        match q.chosenBackend s.settings with
        | .ok backend =>
            if present.any id then
              .quiet (s.keep name ⟨.blankOn present l property, backend, none, present⟩) results
            else .quiet s results
        | .error _ => .quiet s results

def spreadData {beta : Type} (x : Option beta) (everywhere : Bool) : PerProcess n (Option beta) :=
  Vector.ofFn fun r => if r.val = 0 ∨ everywhere then x else none

/-- The turn of data that cannot be made; a process that needs none looks for its grid. -/
def refuseData (s : Session n) (failure : Failure) (everywhere : Bool) (grid : String) : Turn n :=
  .each s fun r => do
    if r.val ≠ 0 ∧ !everywhere then s.requireGrid grid
    throw failure

def distributedReport (l : Layout n) (r : Fin n) : Report :=
  .list [.pair l.shape, .text l.precision.name, .natPair (l.localShape r)]

def assignObstacle (x : Option (Sheet Entry)) (choice : PropertyChoice)
    (a : DistributedMatrix n Float) (r : Fin n) : Obstacle :=
  let l := a.layout
  let log := if r.val = 0 then a.conversionLog x else []
  if (l.propertyFrom choice).isOk && a.provides x then
    match x.bind Sheet.obstacle? with
    | some failure => some (failure, log)
    | none => if l.grid.active r && !l.regionsFit then some (.overflow, log) else none
  else none

def distribute (s : Session n) (name grid : String) (x : Option (Sheet Entry))
    (everywhere : Bool) (q : MatrixRequest) : Turn n :=
  s.withGrid grid fun g =>
    match (q.createFor s.settings g x : Except Failure (Created n Float)) with
    | .error failure => .fail s failure
    | .ok c =>
        let own := c.matrix.assign machineNumerics (spreadData x everywhere) .unspecified
        let replies : Replies n Float Unit := Vector.ofFn fun r =>
          finish (c.matrix.part r) (assignObstacle x .unspecified c.matrix r) fun _ => own.get r
        let present := replies.map fun t => t.result.isOk
        let held := { c.held with matrix := c.matrix.after replies, present := present }
        { session := if present.any id then s.keep name held else s
          results := Vector.ofFn fun r =>
            (replies.get r).result.map fun _ => distributedReport c.matrix.layout r
          logs := replies.map Reply.log }

def itself (_ : Held n) (_ : Fin n) (_ : Answer Float Float) : Report :=
  .truth true

def assign (s : Session n) (name : String) (x : Option (Sheet Entry)) (everywhere : Bool)
    (choice : PropertyChoice) : Turn n :=
  s.callWith name (fun h => assignObstacle x choice h.matrix)
    (.assign (spreadData x everywhere) choice) itself

def fillObstacle (choice : PropertyChoice) (l : Layout n) (r : Fin n) : Obstacle :=
  obstacleOf (l.checkIndices r) ((l.propertyFrom choice).isOk && l.grid.active r)

def fill (s : Session n) (name : String) (f : Filling) (choice : PropertyChoice) : Turn n :=
  s.callWith name (fun h => fillObstacle choice h.matrix.layout) (.fill f.sheet choice) itself

/-!
# Reading
-/

def inspect (s : Session n) (name : String) (f : Held n -> Fin n -> Except Failure Report) :
    Turn n :=
  s.withMatrix name fun h =>
    .each s fun r => if h.present.get r then f h r else .error .unknownName

def describeMatrix (s : Session n) (name : String) : Turn n :=
  s.inspect name fun h r => .ok (h.report r)

def checkCopy (l : Layout n) (everywhere : Bool) (r : Fin n) : Except Failure Unit := do
  if r.val = 0 then
    if !l.regionsFit then throw .overflow
  else if everywhere then
    let _ <- bufferLength l.entryBytes (l.rows * l.cols)

def copyObstacle (everywhere : Bool) (a : DistributedMatrix n Float) (r : Fin n) : Obstacle :=
  obstacleOf (checkCopy a.layout everywhere r) ((a.part r).requireState .copy).isOk

def copyTo (s : Session n) (name : String) (everywhere exact : Bool) : Turn n :=
  s.callWith name (fun h => copyObstacle everywhere h.matrix) (.copyTo everywhere)
    fun h r a => h.answerReport exact r a

def localBlock (s : Session n) (name : String) (exact : Bool) : Turn n :=
  s.inspect name fun h r => .ok (h.localReport exact r)

def recompose (s : Session n) (name : String) : Turn n :=
  s.withMatrix name fun h =>
    let copies := h.perform (copyObstacle true h.matrix) (.copyTo true)
    .each s fun r => do
      match <- (copies.get r).result, h.eigenvalues with
      | .content (some x), some values =>
          let whole := x.recomposed (values.get r)
          return .computed h.digits whole.entries.toList whole
      | _, _ => .error .unknownName

def ownershipMap (s : Session n) (name : String) : Turn n :=
  s.inspect name fun h _ => do
    let l := h.matrix.layout
    l.checkOwners
    return .rows Report.whole l.ownershipMap

def globalIndices (s : Session n) (name : String) : Turn n :=
  s.inspect name fun h r => do
    let l := h.matrix.layout
    let e := l.localShape r
    if roomForEntries < max e.1 e.2 then throw .noRoom
    let rows := (List.range e.1).map fun i : Nat => l.rowIndex r i
    let cols := (List.range e.2).map fun j : Nat => l.colIndex r j
    return .list [.wholes rows, .wholes cols]

def globalRow (s : Session n) (name : String) (i : Argument) : Turn n :=
  s.inspect name fun h r => (h.matrix.layout.globalRow r i.subscript).map Report.whole

def globalColumn (s : Session n) (name : String) (j : Argument) : Turn n :=
  s.inspect name fun h r => (h.matrix.layout.globalColumn r j.subscript).map Report.whole

def address (s : Session n) (name : String) (i j : Argument) : Turn n :=
  s.inspect name fun h _ => do
    let a <- h.matrix.layout.address i.subscript j.subscript
    return .wholes [a.processRow, a.processCol, a.localRow, a.localCol]

def element (s : Session n) (name : String) (i j : Argument) : Turn n :=
  s.inspect name fun h r => do
    let x <- h.matrix.element r i.subscript j.subscript
    return x.report h.precision

/-!
# Writing
-/

/-- Writes an element on some processes; the value is looked at only where there is a place. -/
def setElement (s : Session n) (name : String) (writers : Fin n -> Bool) (i j value : Argument) :
    Turn n :=
  let x := value.spelled.double
  let obstacle (h : Held n) (r : Fin n) : Obstacle :=
    obstacleOf x (writers r && (h.matrix.selection r i.subscript j.subscript).isOk)
  s.withMatrix name fun h =>
    let content := (x.toOption.map h.precision.round).getD 0.0
    s.callWith name obstacle (.setElement writers i.subscript j.subscript content)
      fun h r a => h.answerReport true r a

def setProperty (s : Session n) (name : String) (choice : PropertyChoice) : Turn n :=
  s.call name (.setProperty choice) fun h r a => h.answerReport true r a

/-!
# Factorizations, eigenvalues, norms
-/

def cholesky (s : Session n) (name : String) : Turn n :=
  s.call name .cholesky fun h r a => h.answerReport true r a

def invert (s : Session n) (name : String) : Turn n :=
  s.call name .invert fun h r a => h.answerReport true r a

/-- The eigenvalues are kept with the matrix where they have been computed. -/
def eigen (s : Session n) (name : String) (vectors : Bool) : Turn n :=
  s.withMatrix name fun h =>
    let replies := h.perform (fun _ => none) (.eigen vectors)
    let values := replies.map fun t => t.result.toOption.bind Answer.eigenvalues?
    let kept :=
      if values.all Option.isSome then some (values.map fun v => v.getD #[]) else h.eigenvalues
    let next := { h with matrix := h.matrix.after replies, eigenvalues := kept }
    { session := s.keep name next
      results := Vector.ofFn fun r => (replies.get r).result.map (next.answerReport true r)
      logs := replies.map Reply.log }

def norm (s : Session n) (name : String) (kind : NormKind) (save : Option String) : Turn n :=
  s.withMatrix name fun h =>
    let replies := h.perform (fun _ => none) (.norm kind)
    let values := replies.map fun t => t.result.toOption.bind Answer.measure?
    let session :=
      match save with
      | some key =>
          if values.all Option.isSome then { s with norms := s.norms.register key values } else s
      | none => s
    { session := session
      results := Vector.ofFn fun r => (replies.get r).result.map fun _ =>
        h.normReport r ((values.get r).getD 0.0)
      logs := replies.map Reply.log }

/-- What keeps a process from an estimate: its workspace, or a norm that is no double. -/
def conditionObstacle (norm : Argument) (h : Held n) (r : Fin n) : Obstacle :=
  let l := h.matrix.layout
  let needed := Kernel.conditionWorkspace l.grid r (l.descriptor r)
  let check : Except Failure Unit := do
    let _ <- bufferLength l.entryBytes needed.1
    let _ <- (<- norm.number).double
  obstacleOf check (l.grid.active r && ((h.matrix.part r).requireState .condition).isOk)

def condition (s : Session n) (name : String) (norm : Argument) : Turn n :=
  let value := (norm.number?.getD 0).toDouble
  s.callWith name (conditionObstacle norm) (.condition (Vector.ofFn fun _ => value))
    fun h r a => h.answerReport true r a

def conditionFrom (s : Session n) (name : String) (key : String) : Turn n :=
  s.withMatrix name fun _ =>
    match s.norms.lookup key with
    | none => .fail s .unknownName
    | some norms =>
        if norms.all Option.isSome then
          s.call name (.condition (norms.map fun x => x.getD 0.0))
            fun h r a => h.answerReport true r a
        else .fail s .unknownName

end Session
end BlockCyclic
