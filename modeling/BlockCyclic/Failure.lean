import BlockCyclic.Decimal
import BlockCyclic.State

/-!
# Failures

Everything that can go wrong, by cause, and the wording of those causes that are
reported in words.
-/

namespace BlockCyclic

/-!
# Position of an element, as a caller may give it
-/

/-- A row or column number: whole, with a fraction, or a truth value; or no number at all. -/
inductive Subscript where
  | whole (value : Int)
  | fraction (value : Float)
  | truth (value : Bool)
  | other (shown : String)

namespace Subscript

def text : Subscript -> String
  | whole i => toString i
  | fraction x => (Exact.ofFloat x).shortest
  | truth b => if b then "True" else "False"
  | other shown => shown

/-- Whether the number lies in `[0, n)`; what is no number cannot be compared. -/
def below? (s : Subscript) (n : Int) : Option Bool :=
  match s with
  | whole i => some (0 ≤ i && i < n)
  | fraction x =>
      match (Exact.ofFloat x).truncate? with
      | some i => some (0.0 ≤ x && i < n)
      | none => some false
  | truth b => some ((if b then 1 else 0) < n)
  | other _ => none

/-- Whether both numbers lie in their ranges; the second one is compared only after the first. -/
def bothBelow? (i j : Subscript) (m n : Int) : Option Bool :=
  match i.below? m with
  | some true => j.below? n
  | verdict => verdict

/-- The whole number below, where the subscript is a finite number. -/
def floor : Subscript -> Int
  | whole i => i
  | fraction x => ((Exact.ofFloat x).truncate?).getD 0
  | truth b => if b then 1 else 0
  | other _ => 0

end Subscript

/-- A list of extents in parentheses; a single one is followed by a comma. -/
def extentsText (dims : List Int) : String :=
  match dims with
  | [n] => "(" ++ toString n ++ ",)"
  | _ => "(" ++ ", ".intercalate (dims.map toString) ++ ")"

def pairText (m n : Int) : String :=
  extentsText [m, n]

/-!
# Causes
-/

inductive SizeName where
  | gridShape
  | matrixShape
  | blockSizes
deriving DecidableEq, Repr

def SizeName.text : SizeName -> String
  | gridShape => "grid_shape"
  | matrixShape => "matrix_shape"
  | blockSizes => "block_sizes"

/-- Faults in the layout of a grid or of blocks. Sizes are carried as they are shown. -/
inductive ConfigurationFault where
  | notTwo (size : SizeName) (shown : String)
  | notPositive (size : SizeName) (shown : String)
  | processCount (shown : String)
  | shapeChoice
  | tooManyPositions (rows cols available : Nat)
  | blocks (shown : String)
deriving DecidableEq, Repr

def ConfigurationFault.message : ConfigurationFault -> String
  | notTwo size shown => size.text ++ " must have two entries, got " ++ shown
  | notPositive size shown => size.text ++ " must be positive integers, got " ++ shown
  | processCount shown => "nprocs must be positive, got " ++ shown
  | shapeChoice => "Provide either grid_shape or matrix_shape"
  | tooManyPositions rows cols available =>
      "Process grid " ++ toString rows ++ "x" ++ toString cols
        ++ " needs more processes than available (" ++ toString available ++ ")"
  | blocks shown => "block_sizes must be two positive integers, got " ++ shown

inductive ValueFault where
  | globalShape (shown : String)
  | precision (shown : String)
  | property
  | asymmetric (rows cols : Nat)
  | wrongMatrix (rows cols : Nat)
  | notTwoDimensional (dims : List Nat)
  | backend (shown : String) (available : List String)
  | unsuitable
deriving DecidableEq, Repr

def ValueFault.message? : ValueFault -> Option String
  | globalShape shown => some ("global_shape must be two positive integers, got " ++ shown)
  | precision shown => some ("dtype must be float32 or float64, got " ++ shown)
  | property =>
      some ("Should be one of [" ++ ", ".intercalate
        (Property.all.map fun p => "<Property." ++ p.name ++ ": '" ++ p.label ++ "'>") ++ "]")
  | asymmetric rows cols =>
      some ("A " ++ toString rows ++ "x" ++ toString cols ++ " matrix cannot be symmetric")
  | wrongMatrix rows cols =>
      some ("Rank 0 must provide a real matrix of shape " ++ pairText rows cols)
  | notTwoDimensional dims =>
      some ("x must be a 2-dimensional array, got shape " ++ extentsText (dims.map Int.ofNat))
  | backend shown available =>
      some ("Unknown backend " ++ shown ++ ", available: ["
        ++ ", ".intercalate (available.map fun s => "'" ++ s ++ "'") ++ "]")
  | unsuitable => none

inductive PreconditionFault where
  | state (operation : Operation) (current : State)
  | property (operation : Operation) (required current : Property)
deriving DecidableEq, Repr

def PreconditionFault.message : PreconditionFault -> String
  | state operation current =>
      operation.name ++ " requires state " ++ " or ".intercalate (operation.states.map State.name)
        ++ ", current state is " ++ current.name
  | property operation required current =>
      operation.name ++ " requires property " ++ required.name
        ++ ", current property is " ++ current.name

inductive IndexFault where
  | localElement (row column : Subscript) (rows cols : Nat)
  | localRow (row : Subscript) (rows : Nat)
  | localColumn (column : Subscript) (cols : Nat)
  | globalElement (row column : Subscript) (rows cols : Nat)
  | unsuitable

def IndexFault.message? : IndexFault -> Option String
  | localElement row column rows cols =>
      some ("Local index (" ++ row.text ++ ", " ++ column.text
        ++ ") out of range for local shape " ++ pairText rows cols)
  | localRow row rows =>
      some ("Local row " ++ row.text ++ " out of range [0, " ++ toString rows ++ ")")
  | localColumn column cols =>
      some ("Local column " ++ column.text ++ " out of range [0, " ++ toString cols ++ ")")
  | globalElement row column rows cols =>
      some ("Global index (" ++ row.text ++ ", " ++ column.text
        ++ ") out of range for shape " ++ pairText rows cols)
  | unsuitable => none

/-!
# Non-zero status of a kernel
-/

structure KernelFailure where
  routine : String
  status : Int
deriving DecidableEq, Repr

namespace KernelFailure

/-- The offending argument, or the place of the numerical failure. -/
def position (f : KernelFailure) : Nat :=
  f.status.natAbs

/-- Negative statuses point at an argument. -/
def illegalArgument (f : KernelFailure) : Bool :=
  f.status < 0

def message (f : KernelFailure) : String :=
  if f.illegalArgument then
    f.routine ++ ": argument " ++ toString f.position ++ " had an illegal value"
  else f.routine ++ ": numerical failure at position " ++ toString f.position

end KernelFailure

/-!
# All failures
-/

inductive Failure where
  | configuration (fault : ConfigurationFault)
  | value (fault : ValueFault)
  | precondition (fault : PreconditionFault)
  | numerical (failure : KernelFailure)
  | index (fault : IndexFault)
  /-- A figure was asked of something that is no matrix. -/
  | notMatrix
  /-- An argument is of a kind that the operation cannot use. -/
  | unusable
  /-- A process has no room for its data. -/
  | noRoom
  /-- A group refuses an exchange: it is gone, it has no such member, or it cannot combine. -/
  | exchange
  | divisionByZero
  | overflow
  | notImplemented
  | frozen
  /-- A grid or a matrix of that name was never created. -/
  | unknownName

instance : Inhabited Failure := ⟨.overflow⟩

/-- What a failure is to those who catch it. -/
inductive FailureKind where
  | general
  | value
  | configuration
  | runtime
  | precondition
  | notImplemented
  | arithmetic
  | numerical
  | divisionByZero
  | overflow
  | lookup
  | index
  | key
  | access
  | frozen
  | type
  | memory
  | array
deriving DecidableEq, Repr

namespace FailureKind

def name : FailureKind -> String
  | general => "Exception"
  | value => "ValueError"
  | configuration => "ConfigurationError"
  | runtime => "RuntimeError"
  | precondition => "StatePreconditionError"
  | notImplemented => "NotImplementedError"
  | arithmetic => "ArithmeticError"
  | numerical => "NumericalFailure"
  | divisionByZero => "ZeroDivisionError"
  | overflow => "OverflowError"
  | lookup => "LookupError"
  | index => "IndexError"
  | key => "KeyError"
  | access => "AttributeError"
  | frozen => "FrozenInstanceError"
  | type => "TypeError"
  | memory => "MemoryError"
  | array => "_ArrayMemoryError"

def all : List FailureKind :=
  [general, value, configuration, runtime, precondition, notImplemented, arithmetic, numerical,
    divisionByZero, overflow, lookup, index, key, access, frozen, type, memory, array]

def ofName? (name : String) : Option FailureKind :=
  all.find? fun k => k.name == name

/-- The kinds that include a kind, the narrowest first. -/
def ancestors : FailureKind -> List FailureKind
  | general => []
  | configuration => [value, general]
  | precondition | notImplemented => [runtime, general]
  | numerical | divisionByZero | overflow => [arithmetic, general]
  | index | key => [lookup, general]
  | frozen => [access, general]
  | array => [memory, general]
  | _ => [general]

end FailureKind

def Failure.kind : Failure -> FailureKind
  | configuration _ => .configuration
  | value _ => .value
  | precondition _ => .precondition
  | numerical _ => .numerical
  | index _ => .index
  | notMatrix | unusable => .type
  | noRoom => .array
  | exchange => .general
  | divisionByZero => .divisionByZero
  | overflow => .overflow
  | notImplemented => .notImplemented
  | frozen => .frozen
  | unknownName => .key

/-- The wording of a failure; causes below the level of this library have none. -/
def Failure.message? : Failure -> Option String
  | configuration fault => some fault.message
  | value fault => fault.message?
  | precondition fault => some fault.message
  | numerical failure => some failure.message
  | index fault => fault.message?
  | notMatrix => some "Not a DistributedMatrix"
  | notImplemented => some ""
  | _ => none

end BlockCyclic
