import BlockCyclic.Matrix
import BlockCyclic.Size.Argument

/-!
# Single elements

A process reads and writes the elements of its own block by local position, and any
process can tell where an element of the matrix lives. Positions are checked against
the local or the global shape before anything else.
-/

namespace BlockCyclic

def Argument.subscript : Argument -> Subscript
  | .whole i => .whole i
  | .fraction x => .fraction x
  | .truth b => .truth b
  | a => .other a.printed

/-- A value for a position that lies in its range, and a failure for one that does not. -/
def withinRange {beta : Type} (verdict : Option Bool) (fault : IndexFault)
    (value : beta) : Except Failure beta :=
  match verdict with
  | some true => .ok value
  | some false => .error (.index fault)
  | none => .error .unusable

/-- Where an element lives: process row and column, local row and column. -/
structure Address where
  processRow : Int
  processCol : Int
  localRow : Int
  localCol : Int
deriving DecidableEq, Repr

/-!
# Global and local indices
-/

namespace Layout

variable {n : Nat}

def globalRow (l : Layout n) (r : Fin n) (i : Subscript) : Except Failure Int :=
  let rows := (l.localShape r).1
  withinRange (i.below? rows) (.localRow i rows) (l.rowIndex r i.floor)

def globalColumn (l : Layout n) (r : Fin n) (j : Subscript) : Except Failure Int :=
  let cols := (l.localShape r).2
  withinRange (j.below? cols) (.localColumn j cols) (l.colIndex r j.floor)

def address (l : Layout n) (i j : Subscript) : Except Failure Address :=
  let d := l.distribution
  withinRange (i.bothBelow? j l.rows l.cols) (.globalElement i j l.rows l.cols)
    ⟨d.rowAxis.owner i.floor, d.colAxis.owner j.floor, d.rowAxis.slot i.floor,
      d.colAxis.slot j.floor⟩

def checkLocal (l : Layout n) (r : Fin n) (i j : Subscript) : Except Failure Unit :=
  let s := l.localShape r
  withinRange (i.bothBelow? j s.1 s.2) (.localElement i j s.1 s.2) ()

end Layout

/-!
# What a position selects

Two whole numbers select an element. A truth value selects all or nothing, and a
whole number beside it selects a row.
-/

inductive Selection where
  | element (i j : Nat)
  | row (i : Nat)
  | everything
  /-- Nothing of a row, or of the whole block. -/
  | nothing
deriving DecidableEq, Repr

inductive Selected (alpha : Type) where
  | element (value : alpha)
  | row (values : List alpha)
  | everything (values : List (List alpha))
  | nothing

namespace Selection

def of (rows : Nat) (i j : Subscript) : Except Failure Selection :=
  match i, j with
  | .whole i, .whole j => .ok (.element i.toNat j.toNat)
  | .truth a, .truth b => .ok (if a && b then .everything else .nothing)
  | .whole i, .truth b | .truth b, .whole i =>
      if i < rows then .ok (if b then .row i.toNat else .nothing)
      else .error (.index .unsuitable)
  | _, _ => .error (.index .unsuitable)

variable {alpha : Type} [Zero alpha]

def contains (s : Selection) (i j : Nat) : Bool :=
  match s with
  | element a b => i == a && j == b
  | row a => i == a
  | everything => true
  | nothing => false

def read (s : Selection) (block : Dense alpha) : Selected alpha :=
  match s with
  | element i j => .element (block.get i j)
  | row i => .row ((List.range block.cols).map fun j => block.get i j)
  | everything => .everything block.toLists
  | nothing => .nothing

def write (s : Selection) (block : Dense alpha) (value : alpha) : Dense alpha :=
  block.mapPlaces fun i j old => if s.contains i j then value else old

end Selection

/-!
# Access on a process
-/

namespace DistributedMatrix

variable {n : Nat} {alpha : Type} [Zero alpha]

def selection (a : DistributedMatrix n alpha) (r : Fin n) (i j : Subscript) :
    Except Failure Selection := do
  a.layout.checkLocal r i j
  Selection.of (a.layout.localShape r).1 i j

def element (a : DistributedMatrix n alpha) (r : Fin n) (i j : Subscript) :
    Except Failure (Selected alpha) := do
  let s <- a.selection r i j
  return s.read (a.part r).block

def setElement (a : DistributedMatrix n alpha) (r : Fin n) (i j : Subscript) (value : alpha) :
    Reply alpha Unit :=
  let p := a.part r
  match a.selection r i j with
  | .ok s => .answer { p with block := s.write p.block value } ()
  | .error failure => .refuse p failure

end DistributedMatrix
end BlockCyclic
