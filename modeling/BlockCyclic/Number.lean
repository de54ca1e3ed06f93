import BlockCyclic.Number.Exact

/-!
# Numbers of mixed kind

Data comes as integers of any size or as doubles. Sums, differences and products
of integers stay exact; as soon as a double takes part, the operation is carried
out in doubles.
-/

namespace BlockCyclic

inductive Number where
  | int (value : Int)
  | real (value : Float)

namespace Number

instance : Inhabited Number := ⟨int 0⟩

instance : Zero Number := ⟨int 0⟩

/-- The exact value; integers are rounded to doubles first. -/
def exact : Number -> Exact
  | int i => Exact.ofInt .double i
  | real x => Exact.ofFloat x

def value : Number -> Exact
  | int i => .finite (decide (i < 0)) ⟨i.natAbs, 0⟩
  | real x => Exact.ofFloat x

def below (a b : Number) : Bool :=
  match a, b with
  | int i, int k => i < k
  | a, b => a.value.below b.value

def same (a b : Number) : Bool :=
  match a, b with
  | int i, int k => i == k
  | a, b => a.value.same b.value

def toDouble : Number -> Float
  | int i => (Exact.ofInt .double i).toFloat
  | real x => x

/-- An operation on integers, extended to doubles. -/
def lift (onInt : Int -> Int -> Int) (onReal : Float -> Float -> Float) : Number -> Number -> Number
  | int a, int b => int (onInt a b)
  | a, b => real (onReal a.toDouble b.toDouble)

instance : Add Number := ⟨lift (· + ·) (· + ·)⟩

instance : Sub Number := ⟨lift (· - ·) (· - ·)⟩

instance : Mul Number := ⟨lift (· * ·) (· * ·)⟩

def div (a b : Number) : Number :=
  real (a.toDouble / b.toDouble)

/-- Fraction with a common denominator of two finite values: numerators and that denominator. -/
def commonFraction (x y : Dyad) : Nat × Nat × Nat :=
  (x.fraction.1 * y.fraction.2, y.fraction.1 * x.fraction.2, x.fraction.2 * y.fraction.2)

/-- The remainder in doubles that has the sign of the divisor. -/
def floorRemainder (a b : Float) : Float :=
  match Exact.ofFloat a, Exact.ofFloat b with
  | .finite na da, .finite nb db =>
      if db.mantissa = 0 then 0.0 / 0.0
      else
        let f := commonFraction da db
        let signed (negative : Bool) (n : Nat) : Int := if negative then -(n : Int) else n
        let r := (signed na f.1).fmod (signed nb f.2.1)
        if r = 0 then (if nb then -0.0 else 0.0)
        else (Exact.ofQuotient .double (decide (r < 0)) r.natAbs f.2.2).toFloat
  | .finite na da, .infinite nb => if na == nb || da.mantissa = 0 then a else b
  | _, _ => 0.0 / 0.0

/-- The remainder in doubles that has the sign of the dividend. -/
def truncatedRemainder (a b : Float) : Float :=
  match Exact.ofFloat a, Exact.ofFloat b with
  | .finite na da, .finite _ db =>
      if db.mantissa = 0 then 0.0 / 0.0
      else
        let f := commonFraction da db
        (Exact.ofQuotient .double na (f.1 % f.2.1) f.2.2).toFloat
  | .finite _ _, .infinite _ => a
  | _, _ => 0.0 / 0.0

/-- The quotient in doubles, rounded to the floor; by zero it is that of the division. -/
def floorQuotient (a b : Float) : Float :=
  if b == 0.0 then a / b
  else
    let m := truncatedRemainder a b
    let q := (a - m) / b
    let q := if m != 0.0 && decide (b < 0.0) != decide (m < 0.0) then q - 1.0 else q
    if q == 0.0 then a / b * 0.0
    else if 0.5 < q - q.floor then q.floor + 1.0
    else q.floor

/-- The floor remainder; of integers by zero it is zero. -/
def mod : Number -> Number -> Number
  | int a, int b => if b = 0 then int 0 else int (a.fmod b)
  | a, b => real (floorRemainder a.toDouble b.toDouble)

def zeroOfKind : Number -> Number
  | int _ => int 0
  | real _ => real 0.0

end Number
end BlockCyclic
