import BlockCyclic.Serial

/-!
# Cholesky factorization and inverse

A symmetric matrix is factored into a triangle and its transpose, and the inverse is made
from this factor. Only the triangle itself is read and written.
-/

namespace BlockCyclic

/-!
# Factorization

A lower triangle is factored column by column: the root of the pivot scales its
column, and the products of that column are taken off the columns to the right.
-/

variable {alpha : Type} [Zero alpha] [One alpha] [Add alpha] [Sub alpha] [Mul alpha] [Div alpha]
  [Neg alpha] [Arithmetic alpha]

def Triangle.viaLower (t : Triangle) (f : Dense alpha -> Factored alpha) (a : Dense alpha) :
    Factored alpha :=
  match t with
  | .lower => f a
  | .upper =>
      let r := f a.transpose
      ⟨r.matrix.transpose, r.status⟩

namespace Cholesky

/-- Column `k` scaled by the root of its pivot, and its products taken off. -/
def eliminate (a : Dense alpha) (k : Nat) (root : alpha) : Dense alpha :=
  let scale := 1 / root
  let column := (Array.range a.rows).map fun i => a.get i k * scale
  a.mapPlaces fun i j x =>
    if j = k then
      if i = k then root else if k < i then column.getD i 0 else x
    else if k < j ∧ j ≤ i then x - column.getD i 0 * column.getD j 0
    else x

/-- The columns from `k` on; the factorization stops at the first pivot that is not positive. -/
def columns : Nat -> Nat -> Dense alpha -> Factored alpha
  | 0, _, a => ⟨a, 0⟩
  | rest + 1, k, a =>
      let pivot := a.get k k
      if Arithmetic.less 0 pivot then
        columns rest (k + 1) (eliminate a k (Arithmetic.sqrt pivot))
      else ⟨a, (k + 1 : Nat)⟩

/-- The factor of a lower triangle, or the order of the first minor that is not positive. -/
def lower (a : Dense alpha) : Factored alpha :=
  columns a.cols 0 a

def factor (t : Triangle) (a : Dense alpha) : Factored alpha :=
  t.viaLower lower a

end Cholesky

/-!
# Inverse from a triangular factor

The factor is inverted column by column. A column of the inverse is the product of
what has been inverted already with the column of the factor, divided by the negated
pivot. The product of the inverted factor with its own transpose is the inverse of the
factored matrix, and it replaces the triangle of the factor.
-/

namespace Inverse

def zeroPivot? (a : Dense alpha) : Option Nat :=
  ((List.range a.cols).find? fun k => Arithmetic.isZero (a.get k k)).map (· + 1)

def sumFromFirst : List alpha -> alpha
  | [] => 0
  | x :: rest => rest.foldl (· + ·) x

def entryOf (columns : Array (Array alpha)) (i j : Nat) : alpha :=
  (columns.getD j #[]).getD i 0

/--
Column `j` of an inverse off the diagonal, in the given rows, where the terms of an
entry run over the given positions.
-/
def column (a : Dense alpha) (columns : Array (Array alpha)) (j : Nat)
    (rows : Nat -> Bool) (terms : Nat -> List Nat) : Array alpha :=
  let pivot := 1 / a.get j j
  (Array.range a.rows).map fun i =>
    if i = j then pivot
    else if rows i then
      sumFromFirst ((terms i).map fun k => a.get k j * entryOf columns i k) * -pivot
    else 0

/-- The columns of the inverse of a lower factor, from the last one to the first one. -/
def lowerColumns (a : Dense alpha) : Array (Array alpha) :=
  (List.range a.cols).reverse.foldl
    (fun columns j =>
      columns.modify j fun _ =>
        column a columns j (fun i => decide (j < i)) fun i => (List.range' (j + 1) (i - j)).reverse)
    (Array.replicate a.cols #[])

/-- The columns of the inverse of an upper factor, from the first one to the last one. -/
def upperColumns (a : Dense alpha) : Array (Array alpha) :=
  (List.range a.cols).foldl
    (fun columns j =>
      columns.modify j fun _ =>
        column a columns j (fun i => decide (i < j)) fun i => List.range' i (j - i))
    (Array.replicate a.cols #[])

/-- The terms of a product beyond the pivot, added to the one with the pivot. -/
def withPivot (pivot : alpha) (rest : List alpha) : alpha :=
  match rest with
  | [] => pivot
  | _ => pivot + Arithmetic.total rest

def lowerProduct (n : Nat) (m : Nat -> Nat -> alpha) (i j : Nat) : alpha :=
  withPivot (m i i * m i j) ((List.range' (i + 1) (n - (i + 1))).map fun k => m k i * m k j)

def upperProduct (n : Nat) (m : Nat -> Nat -> alpha) (i j : Nat) : alpha :=
  withPivot (m j j * m i j) ((List.range' (j + 1) (n - (j + 1))).map fun k => m i k * m j k)

def factorColumns (t : Triangle) (a : Dense alpha) : Array (Array alpha) :=
  match t with
  | .lower => lowerColumns a
  | .upper => upperColumns a

def product (t : Triangle) (n : Nat) (columns : Array (Array alpha)) (i j : Nat) : alpha :=
  match t with
  | .lower => lowerProduct n (entryOf columns) i j
  | .upper => upperProduct n (entryOf columns) i j

def replaceTriangle (t : Triangle) (a : Dense alpha) (columns : Array (Array alpha)) :
    Dense alpha :=
  a.mapPlaces fun i j x => if t.contains i j then product t a.rows columns i j else x

def ofFactor (t : Triangle) (a : Dense alpha) : Factored alpha :=
  match zeroPivot? a with
  | some k => ⟨a, k⟩
  | none => ⟨replaceTriangle t a (factorColumns t a), 0⟩

end Inverse

end BlockCyclic
