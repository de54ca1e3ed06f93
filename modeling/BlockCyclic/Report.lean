import BlockCyclic.Decimal
import BlockCyclic.Dense
import BlockCyclic.Distribution.Numbers
import BlockCyclic.Number.Format
import BlockCyclic.Sheet

/-!
# Reports

What a process tells about a result. Content that was only moved is written with
enough digits to be read back; computed content is put on a common decimal grid.
-/

namespace BlockCyclic

inductive Report where
  | nothing
  | truth (value : Bool)
  | whole (value : Int)
  /-- A double with all of its digits. -/
  | real (value : Float)
  | text (value : String)
  | list (items : List Report)
  | record (fields : List (String × Report))
deriving Inhabited

namespace Report

def wholes (xs : List Int) : Report :=
  list (xs.map whole)

def pair (p : Int × Int) : Report :=
  wholes [p.1, p.2]

def natPair (p : Nat × Nat) : Report :=
  pair (p.1, p.2)

def option (x : Option Report) : Report :=
  x.getD nothing

def number : Number -> Report
  | .int i => whole i
  | .real x => real x

def numbers (xs : List Number) : Report :=
  list (xs.map number)

def table : NumberTable -> Report
  | .single x => number x
  | .row entries => list (entries.attach.map fun ⟨t, _⟩ => table t)

def echo : Argument -> Report
  | .absent => nothing
  | .truth b => truth b
  | .whole i => whole i
  | .fraction x => real x
  | .text s => text s
  | .list items => list (items.attach.map fun ⟨a, _⟩ => echo a)
  | .record fields => record (fields.attach.map fun ⟨f, _⟩ => (f.1, echo f.2))
termination_by a => sizeOf a
decreasing_by
  all_goals simp_wf
  · rename_i h
    have := List.sizeOf_lt_of_mem h
    omega
  · rename_i h
    have := List.sizeOf_lt_of_mem h
    cases f
    simp at *
    omega

def scientific (significant : Nat) (x : Float) : Report :=
  text ((Exact.ofFloat x).scientific significant)

def moved (p : Precision) (x : Float) : Report :=
  scientific p.exactDigits x

def movedNumber (f : NumberFormat) (x : Number) : Report :=
  match f, x with
  | .bool, .int i => truth (i != 0)
  | .signed _, .int i | .unsigned _, .int i => whole i
  | _, x => scientific f.exactDigits x.toDouble

def movedItem (t : ElementType) (x : Number) : Report :=
  movedNumber (t.format?.getD (.real .double)) x

def rows {alpha : Type} (write : alpha -> Report) (xs : List (List alpha)) : Report :=
  list (xs.map fun row => list (row.map write))

/-- Entries in row order, nested by the given extents. -/
def nested : List Nat -> List Report -> Report
  | [], items => items.headD nothing
  | [_], items => list items
  | k :: rest, items =>
      let width := volume rest
      list ((List.range k).map fun i => nested rest ((items.drop (i * width)).take width))

/-!
# Computed content
-/

def grain (significant : Nat) (exponent : Int) (x : Float) : Report :=
  match (Exact.ofFloat x).grain significant exponent with
  | .whole count => whole count
  | .special value => text (value.scientific significant)

/-- Content on the grid that the largest of some magnitudes fixes. -/
def quantised (significant : Nat) (top : List Float) (write : (Float -> Report) -> Report) :
    List (String × Report) :=
  let exponent := Exact.gridExponent significant (topMagnitude top)
  [("e", whole exponent), ("q", write (grain significant exponent))]

def computedList (significant : Nat) (xs : List Float) : List (String × Report) :=
  quantised significant xs fun write => list (xs.map write)

/-- A computed matrix, on the grid of some numbers. -/
def computed (significant : Nat) (top : List Float) (x : Dense Float) : Report :=
  record (quantised significant top fun write => rows write x.toLists)

def content (p : Precision) (x : Dense Float) : Report :=
  rows (moved p) x.toLists

def contentOr (exact : Bool) (p : Precision) (top : List Float) (x : Dense Float) : Report :=
  if exact then content p x else computed p.comparedDigits top x

end Report
end BlockCyclic
