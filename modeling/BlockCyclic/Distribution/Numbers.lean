import BlockCyclic.Number.Stored
import BlockCyclic.Sheet.Nested
import BlockCyclic.Words

/-!
# Index maps on numbers

The maps of an axis for numbers that may have a fraction, and for loosely typed values.
Single numbers refuse a divisor of zero. A table of integers is computed with in signed
words, where scalars have to be words; as soon as a fraction takes part, the table is
one of doubles.
-/

namespace BlockCyclic

/-- Numbers one by one, or the numbers of a table. -/
inductive Extent where
  | single
  | table
deriving DecidableEq, Repr

/-!
# Arithmetic
-/

namespace Extent

def checkWords (e : Extent) (x y : Number) : Except Failure Unit :=
  match e, x, y with
  | table, .int i, .int k => if Words.fits i && Words.fits k then .ok () else .error .overflow
  | _, _, _ => .ok ()

/-- An operation on integers that wraps in a table, extended to doubles. -/
def lift (e : Extent) (onInt : Int -> Int -> Int) (onReal : Float -> Float -> Float)
    (x y : Number) : Except Failure Number := do
  e.checkWords x y
  match x, y with
  | .int i, .int k => return .int (if e = .table then Words.wrap (onInt i k) else onInt i k)
  | _, _ => return .real (onReal (<- x.double) (<- y.double))

def add (e : Extent) : Number -> Number -> Except Failure Number :=
  e.lift (· + ·) (· + ·)

def sub (e : Extent) : Number -> Number -> Except Failure Number :=
  e.lift (· - ·) (· - ·)

def mul (e : Extent) : Number -> Number -> Except Failure Number :=
  e.lift (· * ·) (· * ·)

def isZero : Number -> Bool
  | .int i => i == 0
  | .real x => x == 0.0

/-- A division, whose results by zero are refused outside of tables. -/
def divide (e : Extent) (onInt : Int -> Int -> Int) (onReal : Float -> Float -> Float)
    (x y : Number) : Except Failure Number := do
  e.checkWords x y
  if e = .single && isZero y then .error .divisionByZero
  else
    match x, y with
    | .int i, .int k => return .int (onInt i k)
    | _, _ => return .real (onReal (<- x.double) (<- y.double))

def quot (e : Extent) : Number -> Number -> Except Failure Number :=
  e.divide (fun x y => if e = .table then Words.quot x y else x.fdiv y) Number.floorQuotient

/-- The remainder, which has the sign of the divisor. -/
def rem (e : Extent) : Number -> Number -> Except Failure Number :=
  e.divide (fun x y => if e = .table then Words.rem x y else x.fmod y) Number.floorRemainder

end Extent

/-!
# The maps
-/

structure NumberAxis where
  block : Number
  procs : Number
  source : Number

namespace NumberAxis

open Extent

def offset (a : NumberAxis) (p : Number) : Except Failure Number := do
  single.rem (<- single.sub (<- single.add a.procs p) a.source) a.procs

def extent (a : NumberAxis) (n p : Number) : Except Failure Number := do
  let distance <- a.offset p
  let blocks <- single.quot n a.block
  let share <- single.mul (<- single.quot blocks a.procs) a.block
  let extra <- single.rem blocks a.procs
  if distance.below extra then single.add share a.block
  else if distance.same extra then single.add share (<- single.rem n a.block)
  else return share

def owner (a : NumberAxis) (e : Extent) (g : Number) : Except Failure Number := do
  e.rem (<- e.add a.source (<- e.quot g a.block)) a.procs

def slot (a : NumberAxis) (e : Extent) (g : Number) : Except Failure Number := do
  let period <- single.mul a.block a.procs
  e.add (<- e.mul (<- e.quot g period) a.block) (<- e.rem g a.block)

def index (a : NumberAxis) (e : Extent) (p l : Number) : Except Failure Number := do
  let start <- e.mul (<- e.mul (<- e.quot l a.block) a.block) a.procs
  let shift <- single.mul (<- a.offset p) a.block
  e.add (<- e.add start shift) (<- e.rem l a.block)

def slots (count : Number) : Except Failure (List Number) := do
  match count with
  | .int i => return (List.range (<- countingLength i)).map fun k : Nat => .int k
  | .real x =>
      match (Exact.ofFloat x).ceiling? with
      | some i => return (List.range (<- countingLength i)).map fun k : Nat => .real (Float.ofNat k)
      | none => .error (.value .unsuitable)

/-- The indices in a table of local slots; the scalars are looked at even if it is empty. -/
def table (f : Number -> Except Failure Number) (entries : List Number) :
    Except Failure (List Number) := do
  let _ <- f (.int 0)
  entries.mapM f

def indicesOf (a : NumberAxis) (count p : Number) : Except Failure (List Number) :=
  slots count >>= table (a.index .table p)

structure Deal where
  extents : List Number
  owners : List Number
  slots : List Number
  held : List (List Number)

/-- A map of the first `count` numbers, one by one; there is not room for all counts. -/
def ofFirst {beta : Type} (f : Number -> Except Failure beta) (count : Int) :
    Except Failure (List beta) := do
  if 0 < count then let _ <- f (.int 0)
  if roomForEntries < count then throw .noRoom
  (List.range count.toNat).mapM fun k : Nat => f (.int k)

def deal (a : NumberAxis) (n procs : Int) : Except Failure Deal := do
  let extents <- ofFirst (a.extent (.int n)) procs
  let owners <- ofFirst (a.owner .single) n
  let slots <- ofFirst (a.slot .single) n
  let held <- extents.zipIdx.mapM fun e => a.indicesOf e.1 (.int (e.2 : Nat))
  return ⟨extents, owners, slots, held⟩

end NumberAxis

/-!
# Tables
-/

inductive NumberTable where
  | single (x : Number)
  | row (entries : List NumberTable)

namespace NumberTable

def ofEntries : List Nat -> List Number -> NumberTable
  | [], entries => single (entries.headD 0)
  | [_], entries => row (entries.map single)
  | k :: rest, entries =>
      let width := rest.foldl (· * ·) 1
      row ((List.range k).map fun i => ofEntries rest ((entries.drop (i * width)).take width))

end NumberTable

/-!
# Index maps on loosely typed values

A single value is mapped as a number. Nested lists are mapped as a table of words, for
which their items are converted first.
-/

namespace NumberAxis

def ofArguments (block procs source : Argument) : Except Failure NumberAxis := do
  return ⟨<- block.number, <- procs.number, <- source.number⟩

/-- A map applied to a single value, or to all items of nested lists. -/
def onArgument (f : Extent -> Number -> Except Failure Number) (a : Argument) :
    Except Failure NumberTable := do
  match a with
  | .list _ =>
      let (dims, items) <- Sheet.flatten a
      let words <- items.mapM (Argument.wordWithin (NumberFormat.signedRange 64))
      let mapped <- table (f .table) (words.map Number.int)
      return .ofEntries dims mapped
  | a => return .single (<- f .single (<- a.number))

end NumberAxis

/-!
# Regions from loosely given extents

The rows and the columns that a grid position holds, where shapes, blocks and positions
are given as values of any kind.
-/

structure RegionNumbers where
  rows : List Number
  cols : List Number

namespace RegionNumbers

def ofArguments (shape blocks grid coords sources : Argument) :
    Except Failure RegionNumbers := do
  let shape <- shape.two
  let blocks <- blocks.two
  let grid <- grid.two
  let coords <- coords.two
  let rowAxis <- NumberAxis.ofArguments blocks.1 grid.1 (<- sources.itemAt 0)
  let prow <- coords.1.number
  let localRows <- rowAxis.extent (<- shape.1.number) prow
  let colAxis <- NumberAxis.ofArguments blocks.2 grid.2 (<- sources.itemAt 1)
  let pcol <- coords.2.number
  let localCols <- colAxis.extent (<- shape.2.number) pcol
  return ⟨<- rowAxis.indicesOf localRows prow, <- colAxis.indicesOf localCols pcol⟩

end RegionNumbers

end BlockCyclic
