import BlockCyclic.Serial.TriangularSolve

/-!
# Condition estimate

The reciprocal condition number needs the greatest column sum of the inverse. It is
estimated from below by a few products with the inverse, each of which is two
triangular solves: start with equal entries, follow the signs of the result to the
column of the largest entry, and stop when the estimate no longer grows. A last
vector with alternating signs guards against cancellation. Where a product leaves the
range of numbers, there is no estimate.
-/

namespace BlockCyclic

variable {alpha : Type} [Zero alpha] [One alpha] [Add alpha] [Sub alpha] [Mul alpha] [Div alpha]
  [Neg alpha] [Arithmetic alpha]

namespace Condition

def magnitude (x : Array alpha) : alpha :=
  Arithmetic.total (x.toList.map Arithmetic.abs)

/-- The signs of all entries; zero counts as positive. -/
def signs (x : Array alpha) : Array Bool :=
  x.map fun v => !Arithmetic.less v 0

def ofSigns (s : Array Bool) : Array alpha :=
  s.map fun positive => if positive then 1 else -1

def unit (n j : Nat) : Array alpha :=
  (Array.range n).map fun i => if i = j then 1 else 0

/-- The place of the entry with the largest magnitude, the first one of equals. -/
def largest (x : Array alpha) : Nat :=
  (List.range x.size).foldl
    (fun best i =>
      if Arithmetic.less (Arithmetic.abs (x.getD best 0)) (Arithmetic.abs (x.getD i 0)) then i
      else best)
    0

/-- Entries that grow from one to two, with alternating signs. -/
def alternating (n : Nat) : Array alpha :=
  (Array.range n).map fun i =>
    let grown : alpha := 1 + Arithmetic.ofCount i / Arithmetic.ofCount (n - 1)
    if i % 2 = 0 then grown else -grown

/--
The product of the inverse with a vector, from an upper factor. There is none where the
scale of the two solutions is too small for their entries to be scaled back.
-/
def applyInverse? (u : Dense alpha) (b : Array alpha) : Option (Array alpha) :=
  let first := TriangularSolve.transposed u b
  let second := TriangularSolve.direct u first.x
  let scale := first.scale * second.scale
  if Arithmetic.isZero (scale - 1) then some second.x
  else if Arithmetic.isZero scale
      || Arithmetic.less scale (TriangularSolve.largest second.x * Arithmetic.least) then none
  else some (TriangularSolve.divided scale second.x)

/-- An estimate with the signs that led to it. -/
structure Progress (alpha : Type) where
  estimate : alpha
  signs : Array Bool

/--
Follows the signs to single columns, at most `steps` times. The estimate of a new
column is kept even where it does not grow, and it ends the walk.
-/
def climb? (apply : Array alpha -> Option (Array alpha)) (n : Nat) :
    Nat -> Nat -> Progress alpha -> Option alpha
  | 0, _, p => some p.estimate
  | steps + 1, j, p => do
      let column <- apply (unit n j)
      let estimate := magnitude column
      let s := signs column
      if s == p.signs || !Arithmetic.less p.estimate estimate then return estimate
      else
        let x <- apply (ofSigns s)
        let next := largest x
        let settled :=
          !Arithmetic.less (x.getD j 0) (Arithmetic.abs (x.getD next 0))
            && !Arithmetic.less (Arithmetic.abs (x.getD next 0)) (x.getD j 0)
        if settled then return estimate else climb? apply n steps next ⟨estimate, s⟩

/-- The estimated greatest column sum of a symmetric matrix given by its products. -/
def columnSum? (apply : Array alpha -> Option (Array alpha)) (n : Nat) : Option alpha := do
  let first <- apply ((Array.range n).map fun _ => 1 / Arithmetic.ofCount n)
  if n = 1 then return Arithmetic.abs (first.getD 0 0)
  else
    let s := signs first
    let x <- apply (ofSigns s)
    let estimate <- climb? apply n 4 (largest x) ⟨magnitude first, s⟩
    let last := magnitude (<- apply (alternating n))
    let guarded := Arithmetic.ofCount 2 * (last / Arithmetic.ofCount (3 * n))
    return if Arithmetic.less estimate guarded then guarded else estimate

/--
The reciprocal of the product of a norm and the estimated norm of the inverse. It is
zero for the norm zero, and where the inverse leaves the range of numbers.
-/
def reciprocal (u : Dense alpha) (norm : alpha) : alpha :=
  if u.cols = 0 then 1
  else if Arithmetic.isZero norm then 0
  else
    match columnSum? (applyInverse? u) u.cols with
    | some inverse => if Arithmetic.isZero inverse then 0 else (1 / inverse) / norm
    | none => 0

end Condition
end BlockCyclic
