import BlockCyclic.Distribution
import BlockCyclic.Sheet.Nested

/-!
# Generated content

Formulas that give an entry for each row and column, and the functions of whole
index ranges that are made of them. Integers are kept exact until the end, where
every entry becomes a double.
-/

namespace BlockCyclic

/-- Coefficients of one, of the row, of the column and of their product. -/
structure Coefficients where
  constant : Number
  row : Number
  col : Number
  cross : Number

namespace Coefficients

def addTo (c : Coefficients) (start : Number) (i j : Number) : Number :=
  start + c.row * i + c.col * j + c.cross * i * j

def variableTerms (c : Coefficients) (i j : Number) : Number :=
  c.row * i + c.col * j + c.cross * i * j

end Coefficients

inductive Formula where
  | affine (c : Coefficients)
  /-- An affine term with an offset, reduced by a modulus. -/
  | residue (c : Coefficients) (offset modulus : Number)
  | least
  | greatest
  | distance
  | lehmer
  | hilbert
  /-- A value next to the diagonal, and the zero of its kind elsewhere. -/
  | besideDiagonal (value : Number)
  | identity

namespace Formula

def value (f : Formula) (i j : Nat) : Number :=
  let row : Number := .int i
  let col : Number := .int j
  let low : Number := .int (min i j + 1 : Nat)
  let high : Number := .int (max i j + 1 : Nat)
  match f with
  | affine c => c.addTo c.constant row col
  | residue c offset modulus => (c.variableTerms row col + offset).mod modulus + c.constant
  | least => low
  | greatest => high
  | distance => .int ((i : Int) - j).natAbs
  | lehmer => low.div high
  | hilbert => (Number.int 1).div (.int (i + j + 1 : Nat))
  | besideDiagonal v => if ((i : Int) - j).natAbs = 1 then v else v.zeroOfKind
  | identity => .int (if i = j then 1 else 0)

end Formula

/-- A formula with an addition on the diagonal and a common factor. -/
structure Generator where
  formula : Formula
  diagonal : Number
  scale : Number

namespace Generator

def entry (g : Generator) (i j : Nat) : Number :=
  let onDiagonal : Number := g.diagonal * .int (if i = j then 1 else 0)
  .real (g.scale * (g.formula.value i j + onDiagonal)).toDouble

def sheet (g : Generator) (rows cols : Array Nat) : Sheet Entry where
  dims := [rows.size, cols.size]
  elementType := .ofPrecision .double
  entries := rows.flatMap fun i => cols.map fun j => .ok (g.entry i j)

def whole (g : Generator) (elementType : Argument) (rows cols : Nat) :
    Except Failure (Sheet Entry) := do
  let s := g.sheet (Array.range rows) (Array.range cols)
  let t <- ElementType.ofArgument elementType
  Sheet.converted t .double s.dims (s.numbers.toList.map fun x => .fraction x.toDouble)

end Generator

/-!
# Functions of index ranges
-/

/-- What a function of the indices held by a process returns. -/
inductive Filling where
  | generated (g : Generator)
  /-- The same value for all rows or columns, whatever the indices are. -/
  | constant (value : Argument)
  /-- The row index of every entry, as a column. -/
  | rowIndices
  /-- The column index of every entry, as a row. -/
  | colIndices
  /-- The entries of a given matrix. -/
  | table (x : Sheet Entry)
  /-- Zeros of a fixed shape, whatever the indices are. -/
  | zeros (shape : Argument)

namespace Filling

def doubles (dims : List Nat) (entries : Array Number) : Sheet Entry :=
  ⟨dims, .ofPrecision .double, entries.map .ok⟩

/-- A sheet as it enters a region; nothing enters an empty one. -/
def entering (x : Sheet Entry) (r : Region) : Except Failure (Sheet Entry) :=
  match (x.stretch? (fun _ => 0.0) r.rows.size r.cols.size : Option (Dense Float)) with
  | some _ => if r.count = 0 then .ok x else x.entering
  | none => .ok x

def tableEntries (x : Sheet Entry) (r : Region) : Except Failure (Sheet Entry) :=
  match x.dims with
  | rows :: cols :: inner =>
      if r.rows.all (· < rows) && r.cols.all (· < cols) then
        entering ⟨[r.rows.size, r.cols.size] ++ inner, x.elementType,
          r.rows.flatMap fun i => r.cols.flatMap fun j =>
            x.entries.extract ((i * cols + j) * volume inner) ((i * cols + j + 1) * volume inner)⟩
          r
      else .error (.index .unsuitable)
  | _ => .error (.index .unsuitable)

def sheet (f : Filling) (r : Region) : Except Failure (Sheet Entry) :=
  match f with
  | generated g => .ok (g.sheet r.rows r.cols)
  | constant value => do entering (<- Sheet.ofValue value) r
  | rowIndices => .ok (doubles [r.rows.size, 1] (r.rows.map fun i : Nat => .int i))
  | colIndices => .ok (doubles [1, r.cols.size] (r.cols.map fun j : Nat => .int j))
  | table x => tableEntries x r
  | zeros shape => do
      let dims <- Sheet.extentsOf shape
      if dims.all (0 ≤ ·) then
        let dims := dims.map Int.toNat
        return doubles dims (Array.replicate (volume dims) (.int 0))
      else .error (.value .unsuitable)

end Filling
end BlockCyclic
