/-!
# Rounding quotients

A positive rational is given by a numerator and a denominator. It is rounded to
the nearest integer, or to the nearest value of a binary floating-point format,
and of two equally near candidates the even one is taken.
-/

namespace BlockCyclic

/-- The integer nearest to `num / den`; a tie goes to the even neighbour. -/
def roundDiv (num den : Nat) : Nat :=
  let q := num / den
  let r := num % den
  if 2 * r < den then q
  else if den < 2 * r then q + 1
  else q + q % 2

/-- Numerator and denominator of `num * base ^ power / den`. -/
def scaleFraction (num den base : Nat) (power : Int) : Nat × Nat :=
  match power with
  | .ofNat k => (num * Nat.pow base k, den)
  | .negSucc k => (num, den * Nat.pow base (k + 1))

/-- `num * base ^ power / den`, rounded to the nearest integer. -/
def roundScaled (num den base : Nat) (power : Int) : Nat :=
  let f := scaleFraction num den base power
  roundDiv f.1 f.2

/-- The value `mantissa * 2 ^ exponent`. -/
structure Dyad where
  mantissa : Nat
  exponent : Int
deriving DecidableEq, Repr

namespace Dyad

def fraction (d : Dyad) : Nat × Nat :=
  scaleFraction d.mantissa 1 2 d.exponent

def ceil (d : Dyad) : Nat :=
  let f := d.fraction
  (f.1 + f.2 - 1) / f.2

def floor (d : Dyad) : Nat :=
  let f := d.fraction
  f.1 / f.2

end Dyad

/-!
# Binary formats
-/

/-- A binary floating-point format, by the shape of its finite values. -/
structure BinaryFormat where
  /-- Bits of a significand. -/
  digits : Nat
  /-- Exponent of the least positive value. -/
  minExponent : Int
  /-- From two to this power on, magnitudes are infinite. -/
  maxExponent : Int
deriving DecidableEq, Repr

namespace BinaryFormat

def half : BinaryFormat := ⟨11, -24, 16⟩

def single : BinaryFormat := ⟨24, -149, 128⟩

def double : BinaryFormat := ⟨53, -1074, 1024⟩

/-- Doubles with eleven more bits and a wider range. -/
def extended : BinaryFormat := ⟨64, -16445, 16384⟩

/--
Exponent of the unit in which a positive quotient is rounded: its significand
gets all bits of the format, unless the least exponent stops it.
-/
def unitExponent (f : BinaryFormat) (num den : Nat) : Int :=
  let k : Int := (Nat.log2 num : Int) - Nat.log2 den
  let s := scaleFraction num den 2 (-k)
  let top := if s.2 ≤ s.1 then k else k - 1
  max (top + 1 - f.digits) f.minExponent

def overflows (f : BinaryFormat) (d : Dyad) : Bool :=
  let s := scaleFraction d.mantissa 1 2 (d.exponent - f.maxExponent)
  s.2 ≤ s.1

/-- The value of the format nearest to `num / den`, or `none` where it is infinite. -/
def round? (f : BinaryFormat) (num den : Nat) : Option Dyad :=
  if num = 0 then some ⟨0, f.minExponent⟩
  else
    let e := f.unitExponent num den
    let d : Dyad := ⟨roundScaled num den 2 (-e), e⟩
    if f.overflows d then none else some d

end BinaryFormat
end BlockCyclic
