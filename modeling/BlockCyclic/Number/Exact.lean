import BlockCyclic.Number.Rounding

/-!
# Exact values of doubles

The machine number is taken apart into sign, significand and exponent, and put
together again from a value that the format holds.
-/

namespace BlockCyclic

inductive Exact where
  | nan
  | infinite (negative : Bool)
  | finite (negative : Bool) (magnitude : Dyad)
deriving DecidableEq, Repr

namespace Exact

def signWeight : Nat := Nat.pow 2 63

/-- Weight of the exponent, which is also the hidden bit of a significand. -/
def exponentWeight : Nat := Nat.pow 2 52

/-- The exponent field of infinite values and of what is no number. -/
def topExponent : Nat := 2047

def ofFloat (x : Float) : Exact :=
  let bits := x.toBits.toNat
  let negative := bits / signWeight == 1
  let exponent : Nat := bits / exponentWeight % (topExponent + 1)
  let fraction : Nat := bits % exponentWeight
  if exponent = topExponent then
    if fraction = 0 then infinite negative else nan
  else if exponent = 0 then finite negative ⟨fraction, -1074⟩
  else finite negative ⟨exponentWeight + fraction, (exponent : Int) - 1075⟩

/-- The machine number with the given sign and lower 63 bits. -/
def ofFields (negative : Bool) (low : Nat) : Float :=
  Float.ofBits (UInt64.ofNat ((if negative then signWeight else 0) + low))

/-- The fields of a magnitude that is a value of the double format. -/
def fieldsOf (d : Dyad) : Nat :=
  if d.mantissa = 0 then 0
  else
    let shift := min (52 - (Nat.log2 d.mantissa : Int)) (d.exponent + 1074)
    let m := (scaleFraction d.mantissa 1 2 shift).1 / (scaleFraction d.mantissa 1 2 shift).2
    let e := d.exponent - shift
    if m < exponentWeight then m
    else (e + 1075).toNat * exponentWeight + (m - exponentWeight)

def toFloat : Exact -> Float
  | nan => ofFields false (topExponent * exponentWeight + exponentWeight / 2)
  | infinite negative => ofFields negative (topExponent * exponentWeight)
  | finite negative magnitude => ofFields negative (fieldsOf magnitude)

/-- The quotient `num / den` rounded to a format; too large quotients are infinite. -/
def ofQuotient (format : BinaryFormat) (negative : Bool) (num den : Nat) : Exact :=
  match format.round? num den with
  | some d => finite negative d
  | none => infinite negative

def ofInt (format : BinaryFormat) (i : Int) : Exact :=
  ofQuotient format (decide (i < 0)) i.natAbs 1

def round (format : BinaryFormat) : Exact -> Exact
  | finite negative magnitude =>
      ofQuotient format negative magnitude.fraction.1 magnitude.fraction.2
  | other => other

/-- The integer part, toward zero. -/
def truncate? : Exact -> Option Int
  | finite negative magnitude =>
      some (if negative then -(magnitude.floor : Int) else magnitude.floor)
  | _ => none

def ceiling? : Exact -> Option Int
  | finite negative magnitude =>
      some (if negative then -(magnitude.floor : Int) else magnitude.ceil)
  | _ => none

/-!
# Sums, products and order

A result is rounded once to a format.
-/

/-- The sum of two signed magnitudes; a sum of zero is negative only if both are. -/
def addFinite (format : BinaryFormat) (n1 n2 : Bool) (d1 d2 : Dyad) : Exact :=
  let low := min d1.exponent d2.exponent
  let scaled (negative : Bool) (d : Dyad) : Int :=
    let m : Int := d.mantissa * Nat.pow 2 (d.exponent - low).toNat
    if negative then -m else m
  let sum := scaled n1 d1 + scaled n2 d2
  if sum = 0 then finite (n1 && n2) ⟨0, 0⟩
  else
    let f := (Dyad.mk sum.natAbs low).fraction
    ofQuotient format (decide (sum < 0)) f.1 f.2

def add (format : BinaryFormat) : Exact -> Exact -> Exact
  | finite n1 d1, finite n2 d2 => addFinite format n1 n2 d1 d2
  | infinite n1, infinite n2 => if n1 = n2 then infinite n1 else nan
  | infinite n1, finite _ _ => infinite n1
  | finite _ _, infinite n2 => infinite n2
  | _, _ => nan

def mul (format : BinaryFormat) : Exact -> Exact -> Exact
  | finite n1 d1, finite n2 d2 =>
      let f := (Dyad.mk (d1.mantissa * d2.mantissa) (d1.exponent + d2.exponent)).fraction
      ofQuotient format (n1 != n2) f.1 f.2
  | infinite n1, infinite n2 => infinite (n1 != n2)
  | infinite n1, finite n2 d2 => if d2.mantissa = 0 then nan else infinite (n1 != n2)
  | finite n1 d1, infinite n2 => if d1.mantissa = 0 then nan else infinite (n1 != n2)
  | _, _ => nan

/-- Whether the first value lies below the second; of no number this is false. -/
def below : Exact -> Exact -> Bool
  | finite n1 d1, finite n2 d2 =>
      let a := d1.fraction
      let b := d2.fraction
      let signed (negative : Bool) (m : Nat) : Int := if negative then -(m : Int) else m
      signed n1 (a.1 * b.2) < signed n2 (b.1 * a.2)
  | infinite n1, infinite n2 => n1 && !n2
  | infinite n1, finite _ _ => n1
  | finite _ _, infinite n2 => !n2
  | _, _ => false

def same (x y : Exact) : Bool :=
  match x, y with
  | nan, _ | _, nan => false
  | _, _ => !below x y && !below y x

def isFinite : Exact -> Bool
  | finite _ _ => true
  | _ => false

end Exact
end BlockCyclic
