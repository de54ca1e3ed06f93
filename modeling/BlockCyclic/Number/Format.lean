import BlockCyclic.Number

/-!
# Number formats

The formats that the entries of an input array can have, their names, the
conversion of a number into each of them, and which conversions into a matrix
keep every value.
-/

namespace BlockCyclic

inductive Precision where
  | single
  | double
deriving DecidableEq, Repr

namespace Precision

def name : Precision -> String
  | single => "float32"
  | double => "float64"

/-- Significant digits that tell all values of the precision apart. -/
def exactDigits : Precision -> Nat
  | single => 9
  | double => 17

/-- Significant digits to which computed content is compared. -/
def comparedDigits : Precision -> Nat
  | single => 4
  | double => 9

def format : Precision -> BinaryFormat
  | single => .single
  | double => .double

def round : Precision -> Float -> Float
  | single, x => x.toFloat32.toFloat
  | double, x => x

end Precision

inductive NumberFormat where
  | bool
  | signed (bits : Nat)
  | unsigned (bits : Nat)
  | half
  | real (precision : Precision)
  /-- Real numbers with more digits than doubles have. -/
  | extended
  | complex (precision : Precision)
  /-- Complex numbers whose parts have more digits than doubles have. -/
  | complexExtended
deriving DecidableEq, Repr

namespace NumberFormat

def name : NumberFormat -> String
  | bool => "bool"
  | signed bits => "int" ++ toString bits
  | unsigned bits => "uint" ++ toString bits
  | half => "float16"
  | real p => p.name
  | extended => "float128"
  | complex .single => "complex64"
  | complex .double => "complex128"
  | complexExtended => "complex256"

def isComplex : NumberFormat -> Bool
  | complex _ | complexExtended => true
  | _ => false

/-- The integers that are below a power of two in magnitude, the lowest one included. -/
def signedRange (bits : Nat) : Int × Int :=
  (-Int.ofNat (Nat.pow 2 (bits - 1)), Int.ofNat (Nat.pow 2 (bits - 1)))

/--
The integers through which a real number becomes one of the format: narrow formats go
through words of 32 bits, wide ones through words of 64 bits.
-/
def reach : NumberFormat -> Int × Int
  | signed bits => signedRange (if bits ≤ 32 then 32 else 64)
  | unsigned bits =>
      if bits ≤ 16 then signedRange 32
      else if bits < 64 then signedRange 64
      else ((signedRange 64).1, Int.ofNat (Nat.pow 2 64))
  | _ => signedRange 64

/-- The integer that conversion to an integer format starts from; the lowest one if it has none. -/
def integerPart (f : NumberFormat) (x : Number) : Int :=
  match x with
  | .int i => i
  | .real r =>
      match (Exact.ofFloat r).truncate? with
      | some i => if f.reach.1 ≤ i ∧ i < f.reach.2 then i else f.reach.1
      | none => f.reach.1

/-- The number converted to the format: integers wrap, real numbers round to nearest. -/
def convert (f : NumberFormat) (x : Number) : Number :=
  match f with
  | bool =>
      match x with
      | .int i => .int (if i = 0 then 0 else 1)
      | .real r => .int (if r == 0.0 then 0 else 1)
  | signed bits => .int ((f.integerPart x).bmod (Nat.pow 2 bits))
  | unsigned bits => .int (f.integerPart x % Int.ofNat (Nat.pow 2 bits))
  | extended | complexExtended => x
  | half =>
      match x with
      | .int i => .real (Exact.ofInt .half i).toFloat
      | .real r => .real ((Exact.ofFloat r).round .half).toFloat
  | real p | complex p =>
      match x with
      | .int i => .real (Exact.ofInt p.format i).toFloat
      | .real r => .real (p.round r)

/-- Whether every value of the format is a value of the precision. -/
def safelyEnters (f : NumberFormat) (p : Precision) : Bool :=
  match f, p with
  | bool, _ => true
  | signed bits, .single => bits ≤ 16
  | unsigned bits, .single => bits ≤ 16
  | signed _, .double => true
  | unsigned _, .double => true
  | half, _ => true
  | real .double, .single => false
  | real _, _ => true
  | extended, _ => false
  | complex _, _ => false
  | complexExtended, _ => false

/-- Digits that write values of the format, where they are not written as integers. -/
def exactDigits : NumberFormat -> Nat
  | real p => p.exactDigits
  | _ => 17

def bytes : NumberFormat -> Nat
  | bool => 1
  | signed bits => bits / 8
  | unsigned bits => bits / 8
  | half => 2
  | real .single => 4
  | real .double => 8
  | extended => 16
  | complex .single => 8
  | complex .double => 16
  | complexExtended => 32

def kindLetter : NumberFormat -> String
  | bool => "b"
  | signed _ => "i"
  | unsigned _ => "u"
  | half | real _ | extended => "f"
  | complex _ | complexExtended => "c"

end NumberFormat

def Number.toPrecision (p : Precision) (x : Number) : Float :=
  match x with
  | .int i => (Exact.ofInt p.format i).toFloat
  | .real r => p.round r

end BlockCyclic
