import BlockCyclic.Number
import BlockCyclic.Size.Uniform

/-!
# Shape of a process grid for a matrix

No more processes are used than the matrix has blocks. Among the factorizations
of that number the grid is taken whose ratio of rows to columns is closest to that
of the matrix, on a logarithmic scale; of equally close ones, the one with fewer
columns.
-/

namespace BlockCyclic

/-!
# The first best factorization
-/

structure Candidate (kappa : Type) where
  mismatch : kappa
  rows : Nat
  cols : Nat

namespace Candidate

def ofCols {kappa : Type} (mismatch : Nat -> Nat -> kappa) (usable cols : Nat) : Candidate kappa :=
  ⟨mismatch (usable / cols) cols, usable / cols, cols⟩

/-- The earlier candidate, unless the later one is strictly better. -/
def keep {kappa : Type} (less : kappa -> kappa -> Bool) (best : Option (Candidate kappa))
    (c : Candidate kappa) : Option (Candidate kappa) :=
  match best with
  | none => some c
  | some b => if less c.mismatch b.mismatch then some c else some b

end Candidate

/-- The numbers of columns that divide `usable`, in increasing order. -/
def columnChoices (usable : Nat) : List Nat :=
  (List.range' 1 usable).filter fun cols => usable % cols == 0

/-- The first of the best factorizations of `usable`; there is none of zero. -/
def bestFactorization {kappa : Type} (less : kappa -> kappa -> Bool)
    (mismatch : Nat -> Nat -> kappa) (usable : Nat) : Option (Nat × Nat) :=
  (((columnChoices usable).map (Candidate.ofCols mismatch usable)).foldl
    (Candidate.keep less) none).map fun c => (c.rows, c.cols)

/-!
# Counting blocks with rounded quotients
-/

/-- The double nearest to a quotient, or `none` where it is too large. -/
def roundedQuotient? (m n : Nat) : Option Dyad :=
  BinaryFormat.double.round? m n

/-- The number of blocks of an axis, counted from the rounded quotient. -/
def blockCount? (extent block : Nat) : Option Nat :=
  (roundedQuotient? extent block).map Dyad.ceil

def blockTotal? (shape blocks : Nat × Nat) : Option Nat := do
  let down <- blockCount? shape.1 blocks.1
  let across <- blockCount? shape.2 blocks.2
  return down * across

def logQuotient (m n : Nat) : Float :=
  match roundedQuotient? m n with
  | some d => Float.log (Exact.finite false d).toFloat
  | none => Float.log (Exact.infinite false).toFloat

/-- Distance of a grid's ratio from the target, on a logarithmic scale. -/
def ratioMismatch (target : Float) (rows cols : Nat) : Float :=
  (logQuotient rows cols - target).abs

/-- Logarithm of the ratio of rows to columns of a matrix, where the rounded ratio has one. -/
def targetRatio (shape : Nat × Nat) : Except Failure Float :=
  match roundedQuotient? shape.1 shape.2 with
  | none => .error .overflow
  | some d =>
      if d.mantissa = 0 then .error (.value .unsuitable)
      else .ok (logQuotient shape.1 shape.2)

/--
The grid shape for a matrix, for a number of processes that depends on the number
of blocks, and for mismatches that not every matrix has. A matrix too narrow for its
blocks is counted as having none, and then there is no grid.
-/
def gridShapeBy {kappa : Type} (less : kappa -> kappa -> Bool)
    (mismatches : Except Failure (Nat -> Nat -> kappa)) (shape blocks : Nat × Nat)
    (usable : Nat -> Except Failure Nat) : Except Failure (Nat × Nat) := do
  match blockTotal? shape blocks with
  | none => .error .overflow
  | some total =>
      let mismatch <- mismatches
      let count <- usable total
      match bestFactorization less mismatch count with
      | some p => .ok p
      | none => .error .unusable

def gridShapeWith (shape blocks : Nat × Nat) (usable : Nat -> Except Failure Nat) :
    Except Failure (Nat × Nat) :=
  gridShapeBy (fun a b => decide (a < b)) ((targetRatio shape).map ratioMismatch) shape blocks
    usable

def gridShape (shape blocks : Nat × Nat) (procs : Nat) : Except Failure (Nat × Nat) :=
  gridShapeWith shape blocks fun total => .ok (min total procs)

/-!
# Loosely typed requests
-/

def usableCount (procs : Argument) (total : Nat) : Except Failure Nat :=
  match procs with
  | .fraction x => if (Number.real x).below (.int total) then .error .unusable else .ok total
  | a =>
      match a.integer? with
      | some i => .ok (min total i.toNat)
      | none => .error .unusable

/-- Whether a number of processes is below one; other values cannot be compared. -/
def belowOne (procs : Argument) : Except Failure Bool :=
  match procs with
  | .fraction x => .ok (x < 1.0)
  | a =>
      match a.integer? with
      | some i => .ok (i < 1)
      | none => .error .unusable

def gridShapeFor (shape blocks : Size) (procs : Argument) : Except Failure (Nat × Nat) := do
  let shape <- shape.checkPair .matrixShape
  let blocks <- blocks.checkPair .blockSizes
  if <- belowOne procs then
    .error (.configuration (.processCount procs.printed))
  else
    gridShapeWith shape blocks (usableCount procs)

def gridShapeOf (shape blocks procs : Argument) : Except Failure (Nat × Nat) := do
  let shape <- shape.looseSize?
  let shape <- shape.checkPair .matrixShape
  let blocks <- blocks.looseSize?
  let blocks <- blocks.checkPair .blockSizes
  if <- belowOne procs then
    .error (.configuration (.processCount procs.printed))
  else
    gridShapeWith shape blocks (usableCount procs)

end BlockCyclic
