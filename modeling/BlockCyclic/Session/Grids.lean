import BlockCyclic.Distribution.Numbers
import BlockCyclic.Session
import BlockCyclic.Sheet.Nested
import BlockCyclic.Transfer
import BlockCyclic.Words

/-!
# Turns with grids

Creating and releasing grids, telling about them, and sending buffers around in
their groups.
-/

namespace BlockCyclic

inductive GroupName where
  | base
  | grid
  | row
  | col
  | inactive
deriving DecidableEq, Repr

namespace GroupName

def name : GroupName -> String
  | base => "base"
  | grid => "grid"
  | row => "row"
  | col => "col"
  | inactive => "inactive"

def all : List GroupName := [base, grid, row, col, inactive]

def ofName? (name : String) : Option GroupName :=
  all.find? fun g => g.name == name

end GroupName

inductive Combination where
  | sum
  | product
  | largest
  | least
deriving DecidableEq, Repr

namespace Combination

def name : Combination -> String
  | sum => "SUM"
  | product => "PROD"
  | largest => "MAX"
  | least => "MIN"

def all : List Combination := [sum, product, largest, least]

def ofName? (name : String) : Option Combination :=
  all.find? fun c => c.name == name

def apply (c : Combination) (f : NumberFormat) (a b : Number) : Number :=
  match c with
  | sum => f.convert (a + b)
  | product => f.convert (a * b)
  | largest => if a.below b then b else a
  | least => if b.below a then b else a

/-- Whether entries of a format can be combined; truth values and an order of planes cannot. -/
def combines (c : Combination) (f : NumberFormat) : Bool :=
  match f with
  | .bool => false
  | f => !f.isComplex || c == sum || c == product

/-- Two values combined that have more digits than doubles. -/
def applyExtended (c : Combination) (a b : Exact) : Exact :=
  match c with
  | sum => a.add .extended b
  | product => a.mul .extended b
  | largest => if a.below b then b else a
  | least => if b.below a then b else a

end Combination

variable {n : Nat}

def Grid.group (g : Grid n) : GroupName -> Communicator n
  | .base => .world
  | .grid => g.gridComm
  | .row => g.rowComm
  | .col => g.colComm
  | .inactive => g.inactiveComm

namespace Grid

/-!
# Reports on a grid
-/

def shapeReport (g : Grid n) : Report :=
  .natPair (g.rows, g.cols)

def groupReport (c : Communicator n) (r : Fin n) : Report :=
  match c.size? r, c.rank? r with
  | some size, some rank => .natPair (size, rank)
  | _, _ => .nothing

/-- Whether a process has a context; a released grid does not tell it to its members. -/
def contextReport (g : Grid n) (r : Fin n) : List (String × Report) :=
  if g.released && g.active r then [] else [("has_context", .truth (g.active r))]

def report (g : Grid n) (r : Fin n) : Report :=
  .record
    ([("grid_shape", g.shapeReport),
        ("shape_tuple", g.shapeReport),
        ("coords", .pair (g.coords r)),
        ("my", .pair (g.coords r)),
        ("active", .truth (g.active r)),
        ("n_active", .whole g.activeCount),
        ("n_inactive", .whole g.inactiveCount),
        ("rank", .whole r.val),
        ("size", .whole n),
        ("base", groupReport .world r),
        ("grid", groupReport g.gridComm r),
        ("row", groupReport g.rowComm r),
        ("col", groupReport g.colComm r),
        ("inactive_with_root", groupReport g.inactiveComm r)]
      ++ g.contextReport r)

end Grid

namespace Session

def createGrid (s : Session n) (name : String) (q : Grid.Request) : Turn n :=
  match Grid.create (fun _ => s.nextContext) s.settings.blockSize q with
  | .error failure => .fail s failure
  | .ok (g : Grid n) =>
      { session :=
          { s with grids := s.grids.register name g, nextContext := s.nextContext + 1 }
        results := Vector.ofFn fun r =>
          .ok (.record [("grid_shape", g.shapeReport), ("coords", .pair (g.coords r))])
        logs := Vector.ofFn g.creationLog }

def describeGrid (s : Session n) (name : String) : Turn n :=
  s.withGrid name fun g => .each s fun r => .ok (g.report r)

def releaseGrid (s : Session n) (name : String) : Turn n :=
  s.withGrid name fun g =>
    let released := g.release
    .each { s with grids := s.grids.register name released } fun r => .ok (released.report r)

end Session

/-!
# Buffers

Every process brings a buffer of its own. Where none can be made, this is what the
process answers, and the others do without it.
-/

/-- The buffer of every process, or why it has none. -/
abbrev Buffers (n : Nat) := PerProcess n (Except Failure (Sheet Entry))

namespace Buffers

/-- Buffers from a value that has an item for every process; an absent type is left to them. -/
def ofValues (elementType values : Argument) : Buffers n :=
  Vector.ofFn fun r => do
    let own <- values.itemAt r.val
    match elementType with
    | .absent => Sheet.ofValue own
    | t => Sheet.ofItems t own

def numbers (b : Buffers n) : PerProcess n (Array Number) :=
  b.map fun x =>
    match x with
    | .ok s => s.numbers
    | .error _ => #[]

def elementType (b : Buffers n) : ElementType :=
  match b.toList.filterMap Except.toOption with
  | s :: _ => s.elementType
  | [] => .ofPrecision .double

def report (b : Buffers n) (r : Fin n) (entries : Array Number) : Except Failure Report :=
  (b.get r).map fun s => .nested s.dims (entries.toList.map (Report.movedItem s.elementType))

def checkSendable (x : Sheet Entry) : Except Failure Unit :=
  if x.elementType.format?.isSome then .ok () else .error .unknownName

def checkCombined (c : Combination) (x : Sheet Entry) : Except Failure Unit := do
  checkSendable x
  if x.elementType.format?.all c.combines then return () else .error .exchange

def combined (b : Buffers n) (group : Communicator n) (c : Combination) :
    PerProcess n (Option (Array Number)) :=
  let format := b.elementType.format?.getD (.real .double)
  if format = .extended ∨ format = .complexExtended then
    let sums := group.allreduceBuffer c.applyExtended (b.numbers.map fun x => x.map Number.value)
    sums.map fun x => x.map fun values =>
      values.map fun v => Number.real (v.round .double).toFloat
  else group.allreduceBuffer (c.apply format) b.numbers

end Buffers

/-!
# Members that are named by their numbers
-/

def memberNumber (c : Communicator n) (r : Fin n) (root : Argument) : Except Failure Nat := do
  let number <-
    match root with
    | .text _ => .error .unusable
    | other => other.wordWithin (NumberFormat.signedRange 32)
  match c.size? r with
  | some size =>
      if 0 ≤ number ∧ number < size then return number.toNat else .error .exchange
  | none => .error .exchange

def givenNumber (root : Argument) : Nat :=
  (root.wholePart.toOption.getD 0).toNat

namespace Session

open Buffers

def sendToInactive (s : Session n) (name : String) (b : Buffers n) : Turn n :=
  s.withGrid name fun g =>
    let sent := g.sendBufferToInactive b.numbers
    .each s fun r => do
      if g.inactiveCount ≠ 0 ∧ (g.inactiveComm r).isSome then
        checkSendable (<- b.get r)
        if !g.inactiveComm.bufferHolds 0 b.numbers r then throw .exchange
      let values <- b.report r (sent.get r)
      return .record [("same", .truth true), ("values", values)]

/-- The status that a value is, which may be wrapped in lists. -/
def statusWord (a : Argument) : Except Failure Int := do
  let s <- Sheet.ofItems (.text "int64") a
  match s.entries.toList with
  | [.ok (.int i)] => return i
  | _ => .error .unusable

def sendStatus (s : Session n) (name : String) (given : Argument) : Turn n :=
  s.withGrid name fun g =>
    let own : PerProcess n (Except Failure Int) := Vector.ofFn fun r => do
      let status <- given.itemAt r.val
      if g.active r then statusWord status else return 0
    let sent := g.sendStatusToInactive (own.map fun x => x.toOption.getD 0)
    .each s fun r => (own.get r).map fun _ => .whole (sent.get r)

def allreduce (s : Session n) (name : String) (group : GroupName) (c : Combination)
    (b : Buffers n) (receives : Bool) : Turn n :=
  s.withGrid name fun g =>
    let combined := b.combined (g.group group) c
    .each s fun r =>
      match combined.get r with
      | none => .ok .nothing
      | some entries => do
          let x <- b.get r
          checkCombined c x
          return .record
            [("values", .list (entries.toList.map (Report.movedItem x.elementType))),
              ("dtype", .text x.elementType.name),
              ("shape", .wholes [(entries.size : Int)]),
              ("same", .truth receives)]

def broadcast (s : Session n) (name : String) (group : GroupName) (root : Argument)
    (b : Buffers n) : Turn n :=
  s.withGrid name fun g =>
    let members := g.group group
    let sent := members.broadcastBuffer (givenNumber root) b.numbers
    .each s fun r => do
      if (members r).isSome then
        let _ <- memberNumber members r root
        checkSendable (<- b.get r)
        if !members.bufferHolds (givenNumber root) b.numbers r then throw .exchange
      b.report r (sent.get r)

/-!
# Scattering and gathering a sheet
-/

def sheetDistribution (g : Grid n) (r : Fin n) (x : Sheet Entry) (blocks : Argument) :
    Except Failure (Distribution × Nat × Nat) := do
  match x.dims with
  | [rows, cols] =>
      let (mb, nb) <- blocks.two
      let extent (block : Argument) (procs position : Int) (total : Nat) : Except Failure Int := do
        match <- NumberAxis.extent ⟨<- block.plainNumber, .int procs, .int 0⟩ (.int total)
          (.int position) with
        | .int i => return i
        | .real _ => .error .unusable
      let localRows <- extent mb g.rows (g.coords r).1 rows
      let localCols <- extent nb g.cols (g.coords r).2 cols
      let d := Distribution.atOrigin (rows, cols)
        ((mb.integer?).getD 1, (nb.integer?).getD 1) g.shape
      if localRows < 0 ∨ localCols < 0 then .error (.value .unsuitable)
      else if !d.regionsFit (g.rows, g.cols) then .error .overflow
      else return (d, rows, cols)
  | _ => .error (.value .unsuitable)

/-- A sheet is scattered from one process of the grid and gathered on another one. -/
def scatterGather (s : Session n) (name : String) (x : Except Failure (Sheet Entry))
    (blocks root gatherRoot : Argument) : Turn n :=
  s.withGrid name fun g =>
    let plans : PerProcess n (Except Failure (Distribution × Nat × Nat)) :=
      Vector.ofFn fun r => do sheetDistribution g r (<- x) blocks
    match x, plans.toList.head? with
    | .ok x, some (.ok (d, rows, cols)) =>
        let start : PerProcess n (Dense Number) := Vector.ofFn fun r =>
          let e := d.localShape (g.coords r).1 (g.coords r).2
          Dense.zeros e.1.toNat e.2.toNat
        let whole : PerProcess n (Option (Dense Number)) :=
          Vector.ofFn fun _ => some (x.toDense (fun e => e.toOption.getD 0) rows cols)
        let blockSizes := (d.rowAxis.block, d.colAxis.block)
        let sender := givenNumber root
        let locals := g.gridComm.scatter g.shape sender (fun _ => blockSizes) whole start
        let gathered := g.gridComm.gather (givenNumber gatherRoot) (fun _ => d) locals
        let write (m : Dense Number) : Report := .rows (Report.movedItem x.elementType) m.toLists
        .each s fun r =>
          if g.active r then do
            let _ <- plans.get r
            checkSendable x
            let _ <- memberNumber g.gridComm r root
            let _ <- memberNumber g.gridComm r gatherRoot
            return .record
              [("local", write (locals.get r)),
                ("gathered", .option ((gathered.get r).map write))]
          else .ok .nothing
    | _, _ =>
        .each s fun r =>
          if g.active r then (plans.get r).map fun _ => .nothing else .ok .nothing

end Session
end BlockCyclic
