import BlockCyclic.Number.Format

/-!
# States, properties, operations and log records

The state says what the stored content means after the last operation, the
property says what structure it has. Every operation that reads content is
allowed in some states only.
-/

namespace BlockCyclic

inductive State where
  | uninitialized
  | matrix
  | cholesky
  | inverse
  | eigenvalues
  | eigenvectors
deriving DecidableEq, Repr, Inhabited

namespace State

def name : State -> String
  | uninitialized => "UNINITIALIZED"
  | matrix => "MATRIX"
  | cholesky => "CHOLESKY"
  | inverse => "INVERSE"
  | eigenvalues => "EIGENVALUES"
  | eigenvectors => "EIGENVECTORS"

def label : State -> String
  | uninitialized => "Uninitialized"
  | matrix => "Matrix"
  | cholesky => "Cholesky"
  | inverse => "Inverse"
  | eigenvalues => "Eigenvalues"
  | eigenvectors => "Eigenvectors"

def all : List State :=
  [uninitialized, matrix, cholesky, inverse, eigenvalues, eigenvectors]

end State

inductive Property where
  | general
  | symmetric
  | lowerTriangular
  | upperTriangular
deriving DecidableEq, Repr, Inhabited

namespace Property

def name : Property -> String
  | general => "GENERAL"
  | symmetric => "SYMMETRIC"
  | lowerTriangular => "LOWER_TRIANGULAR"
  | upperTriangular => "UPPER_TRIANGULAR"

def label : Property -> String
  | general => "General"
  | symmetric => "Symmetric"
  | lowerTriangular => "LowerTriangular"
  | upperTriangular => "UpperTriangular"

def all : List Property :=
  [general, symmetric, lowerTriangular, upperTriangular]

def ofName? (name : String) : Option Property :=
  all.find? fun p => p.name == name

end Property

inductive NormKind where
  /-- Greatest absolute column sum. -/
  | columnSum
  /-- Greatest absolute row sum. -/
  | rowSum
  /-- Square root of the sum of squares. -/
  | frobenius
deriving DecidableEq, Repr

def NormKind.name : NormKind -> String
  | columnSum => "l1"
  | rowSum => "linf"
  | frobenius => "Frobenius"

inductive Operation where
  | copy
  | cholesky
  | inversion
  | eigen
  | condition
  | norm (kind : NormKind)
deriving DecidableEq, Repr

namespace Operation

def name : Operation -> String
  | copy => "Copy to a serial matrix"
  | cholesky => "Cholesky factorization"
  | inversion => "Inversion"
  | eigen => "Symmetric eigendecomposition"
  | condition => "Condition number estimate"
  | norm kind => kind.name ++ " norm"

def states : Operation -> List State
  | copy => [.matrix, .cholesky, .inverse, .eigenvectors]
  | cholesky => [.matrix]
  | inversion => [.cholesky]
  | eigen => [.matrix]
  | condition => [.cholesky]
  | norm _ => [.matrix, .inverse]

end Operation

/-!
# Log records
-/

inductive Event where
  /-- A new grid does not use all processes. -/
  | idle (rows cols inactive available : Nat)
  /-- Values of an input array may not survive the cast to the matrix. -/
  | lossyCast (source : String) (target : Precision)
  | transition (rows cols : Nat) (source target : State)
  /-- A factorization kernel of the given order has ended. -/
  | kernelEnd (routine : String) (order : Int) (status : Int)
  | eigenEnd (jobz : String) (order : Int) (status : Int)
  | eigenWorkspace (lwork liwork : Int)
deriving DecidableEq, Repr

namespace Event

def level : Event -> String
  | idle .. => "INFO"
  | lossyCast .. => "WARNING"
  | _ => "DEBUG"

def message : Event -> String
  | idle rows cols inactive available =>
      "Process grid " ++ toString rows ++ "x" ++ toString cols ++ " leaves " ++ toString inactive
        ++ " of " ++ toString available ++ " processes inactive"
  | lossyCast source target => "Matrix of dtype " ++ source ++ " cast to " ++ target.name
  | transition rows cols source target =>
      "DistributedMatrix " ++ toString rows ++ "x" ++ toString cols ++ ": " ++ source.name
        ++ " -> " ++ target.name
  | kernelEnd routine order status =>
      routine ++ ": n=" ++ toString order ++ " status=" ++ toString status
  | eigenEnd jobz order status =>
      "syev: jobz=" ++ jobz ++ " n=" ++ toString order ++ " status=" ++ toString status
  | eigenWorkspace lwork liwork =>
      "syev workspace: lwork=" ++ toString lwork ++ " liwork=" ++ toString liwork

end Event

end BlockCyclic
