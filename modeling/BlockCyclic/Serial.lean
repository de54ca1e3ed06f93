import BlockCyclic.Dense
import BlockCyclic.Number.Format

/-!
# Serial kernels

The factorizations of a matrix that one process holds are functions from matrices to
matrices and statuses. Distributed kernels are built on any such family: they neither know
nor care how the serial results come about.
-/

namespace BlockCyclic

/-!
# Arithmetic of the factorizations

Each factorization is written once and runs in either precision.
-/

/-- What the factorizations need besides the four operations: roots, order and range. -/
class Arithmetic (alpha : Type) where
  ofCount : Nat -> alpha
  sqrt : alpha -> alpha
  abs : alpha -> alpha
  less : alpha -> alpha -> Bool
  isFinite : alpha -> Bool
  /-- The least positive number with all digits; its reciprocal is finite. -/
  least : alpha
  /-- The distance from one to the next number. -/
  spacing : alpha

namespace Arithmetic

variable {alpha : Type} [Zero alpha] [Add alpha] [Mul alpha]

/-- Whether a number is neither below nor above zero; this is false of no number. -/
def isZero [Arithmetic alpha] (x : alpha) : Bool :=
  !less x 0 && !less 0 x && isFinite x

/-- The sum of a list, from the left. -/
def total (xs : List alpha) : alpha :=
  xs.foldl (· + ·) 0

def greater [Arithmetic alpha] (x y : alpha) : alpha :=
  if less x y then y else x

def lesser [Arithmetic alpha] (x y : alpha) : alpha :=
  if less y x then y else x

def dot (xs ys : List alpha) : alpha :=
  total (List.zipWith (· * ·) xs ys)

end Arithmetic

/-!
# Families of kernels
-/

/-- The triangle of a symmetric matrix that a kernel works on. -/
inductive Triangle where
  | lower
  | upper
deriving DecidableEq, Repr

namespace Triangle

def letter : Triangle -> String
  | lower => "L"
  | upper => "U"

def ofLetter? (s : String) : Option Triangle :=
  if s = "L" then some lower else if s = "U" then some upper else none

def contains (t : Triangle) (i j : Nat) : Bool :=
  match t with
  | lower => decide (j ≤ i)
  | upper => decide (i ≤ j)

end Triangle

structure Factored (alpha : Type) where
  matrix : Dense alpha
  status : Int

/-- Eigenvalues, eigenvectors in columns, and the status. -/
structure Spectrum (alpha : Type) where
  values : Array alpha
  vectors : Dense alpha
  status : Int

class Measure (rho : Type) where
  isNaN : rho -> Bool
  isNegative : rho -> Bool

/--
Workspace for a spectrum: a size that is told as a number of the precision, and a number of
integers. They depend on whether eigenvectors are wanted, on whether the lower triangle is
read, and on the order.
-/
abbrev WorkspaceQuery := Precision -> Bool -> Bool -> Int -> Rat × Int

structure SerialKernels (alpha rho : Type) where
  factor : Precision -> Triangle -> Dense alpha -> Factored alpha
  invert : Precision -> Triangle -> Dense alpha -> Factored alpha
  /-- Eigenvalues of a symmetric matrix, and its eigenvectors if they are wanted. -/
  eigen : Precision -> Bool -> Triangle -> Dense alpha -> Spectrum alpha
  eigenWorkspace : WorkspaceQuery
  /-- Reciprocal condition number from an upper factor and the norm of the matrix. -/
  condition : Precision -> Dense alpha -> rho -> rho × Int

end BlockCyclic
