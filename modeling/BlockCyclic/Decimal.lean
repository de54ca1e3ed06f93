import BlockCyclic.Number.Exact

/-!
# Decimal notation

Every text of a double is a decimal near its exact binary value: with a given number of
digits, with the fewest that read back, with limited places, or on a scale that several
values share.
-/

namespace BlockCyclic

/-!
# Scientific notation

A finite value is written with a given number of significant digits, rounded to
the nearest such decimal of the exact binary value, a tie going to the even one.
The exponent has a sign and at least two digits.
-/

/-- The decimal exponent of a positive quotient: the power of ten just below it. -/
def decimalExponent (num den : Nat) : Int :=
  let bits : Int := (Nat.log2 num : Int) - Nat.log2 den
  let guess := (bits * 30103).fdiv 100000
  let reaches (e : Int) : Bool :=
    let s := scaleFraction num den 10 (-e)
    s.2 ≤ s.1
  if reaches (guess + 1) then guess + 1
  else if reaches guess then guess
  else guess - 1

/-- The value `digits * 10 ^ (exponent - places)` with one digit before the point. -/
structure Scientific where
  digits : Nat
  exponent : Int
deriving DecidableEq, Repr

namespace Scientific

/-- The positive quotient `num / den` with `places` digits after the first one. -/
def ofQuotient (places num den : Nat) : Scientific :=
  if num = 0 then ⟨0, 0⟩
  else
    let e := decimalExponent num den
    let q := roundScaled num den 10 (places - e)
    if q = Nat.pow 10 (places + 1) then ⟨Nat.pow 10 places, e + 1⟩ else ⟨q, e⟩

def padZeros (width : Nat) (s : String) : String :=
  "".pushn '0' (width - s.length) ++ s

def exponentText (e : Int) : String :=
  (if e < 0 then "-" else "+") ++ padZeros 2 (toString e.natAbs)

def text (places : Nat) (s : Scientific) : String :=
  let ds := (padZeros (places + 1) (toString s.digits)).toList
  let fraction := if places = 0 then "" else "." ++ String.ofList (ds.drop 1)
  String.ofList (ds.take 1) ++ fraction ++ "e" ++ exponentText s.exponent

end Scientific

/-- A value written with the given number of significant digits, at least one. -/
def Exact.scientific (significant : Nat) : Exact -> String
  | .nan => "nan"
  | .infinite negative => if negative then "-inf" else "inf"
  | .finite negative d =>
      let places := significant - 1
      let s := Scientific.ofQuotient places d.fraction.1 d.fraction.2
      (if negative then "-" else "") ++ s.text places

/-!
# Shortest decimal text

A double is written with the fewest significant digits that read back as the same
double, and of those decimals with the nearest one. The point is written out
for magnitudes from `10 ^ -4` up to below `10 ^ 16`; other values have an exponent.
-/

namespace Shortest

/-- Whether `s`, with the given number of places, reads back as `d`. -/
def readsBack (places : Nat) (d : Dyad) (s : Scientific) : Bool :=
  let f := scaleFraction s.digits 1 10 (s.exponent - places)
  match BinaryFormat.double.round? f.1 f.2 with
  | some r =>
      let t := scaleFraction r.mantissa 1 2 (r.exponent - d.exponent)
      t.1 == d.mantissa * t.2
  | none => false

/-- The two neighbours of a value on the grid with the given places, the nearer one first. -/
def neighbours (places : Nat) (d : Dyad) : List Scientific :=
  let e := decimalExponent d.fraction.1 d.fraction.2
  let f := scaleFraction d.fraction.1 d.fraction.2 10 (places - e)
  let low := f.1 / f.2
  let near := roundDiv f.1 f.2
  if near = low then [⟨low, e⟩, ⟨low + 1, e⟩] else [⟨low + 1, e⟩, ⟨low, e⟩]

/-- Places and digits of the shortest decimal, tried from `places` on. -/
def search (d : Dyad) : Nat -> Nat -> Nat × Scientific
  | 0, places => (places, Scientific.ofQuotient places d.fraction.1 d.fraction.2)
  | fuel + 1, places =>
      match (neighbours places d).find? (readsBack places d) with
      | some s => (places, s)
      | none => search d fuel (places + 1)

/-- Seventeen digits are always enough, so that sixteen steps from one digit suffice. -/
def ofDyad (d : Dyad) : Nat × Scientific :=
  search d 16 0

/-- The digits, and the number of them that stand before the point. -/
def digitsAndPoint (d : Dyad) : List Char × Int :=
  let r := ofDyad d
  let digits := (toString r.2.digits).toList
  (digits, r.2.exponent + (digits.length - r.1 : Int))

def trimZeros (digits : List Char) : List Char :=
  (digits.reverse.dropWhile (· == '0')).reverse

def magnitudeText (d : Dyad) : String :=
  if d.mantissa = 0 then "0.0"
  else
    let r := digitsAndPoint d
    let digits := trimZeros r.1
    let point := r.2
    if -4 < point && point ≤ 16 then
      if point ≤ 0 then
        "0." ++ "".pushn '0' (-point).toNat ++ String.ofList digits
      else
        let whole := digits.take point.toNat
        let rest := digits.drop point.toNat
        String.ofList whole ++ "".pushn '0' (point.toNat - whole.length) ++ "."
          ++ (if rest.isEmpty then "0" else String.ofList rest)
    else
      let rest := digits.drop 1
      String.ofList (digits.take 1) ++ (if rest.isEmpty then "" else "." ++ String.ofList rest)
        ++ "e" ++ Scientific.exponentText (point - 1)

end Shortest

def Exact.shortest : Exact -> String
  | .nan => "nan"
  | .infinite negative => if negative then "-inf" else "inf"
  | .finite negative d => (if negative then "-" else "") ++ Shortest.magnitudeText d

/-!
# Common decimal scale

Computed arrays are compared on a decimal grid that all their entries share. The
largest finite magnitude, rounded to the given number of significant digits,
fixes the exponent of the grid; every finite entry is the nearest multiple of
the last of those digits, a tie going to the even one.
-/

inductive Grain where
  | whole (count : Int)
  | special (value : Exact)
deriving DecidableEq, Repr

namespace Exact

def magnitudeBelow (x y : Dyad) : Bool :=
  let s := scaleFraction x.mantissa 1 2 (x.exponent - y.exponent)
  s.1 < y.mantissa * s.2

def maxMagnitude (top : Option Dyad) (x : Exact) : Option Dyad :=
  match x with
  | finite _ d =>
      match top with
      | none => some d
      | some t => if magnitudeBelow t d then some d else some t
  | _ => top

/-- Exponent of the grid whose largest finite magnitude is `top`. -/
def gridExponent (significant : Nat) : Option Dyad -> Int
  | none => 0
  | some d => (Scientific.ofQuotient (significant - 1) d.fraction.1 d.fraction.2).exponent

def grain (significant : Nat) (exponent : Int) : Exact -> Grain
  | finite negative d =>
      let q := roundScaled d.fraction.1 d.fraction.2 10 (significant - 1 - exponent)
      .whole (if negative then -(q : Int) else q)
  | other => .special other

end Exact

def topMagnitude (xs : List Float) : Option Dyad :=
  xs.foldl (fun top x => (Exact.ofFloat x).maxMagnitude top) none

/-!
# Decimals with limited places

A magnitude is written with the fewest digits that read back as the same double, but
with no more than a given number of places; where these are too few, it is rounded to
the nearest such decimal, and a tie goes to the even one.
-/

structure DecimalParts where
  whole : String
  fraction : String
  exponent : Int
deriving DecidableEq, Repr

namespace DecimalParts

/-- The digits of a number of units of the last place. -/
def ofUnits (places units : Nat) (exponent : Int) : DecimalParts :=
  let base := Nat.pow 10 places
  let fraction := (Scientific.padZeros places (toString (units % base))).toList
  ⟨toString (units / base),
    if places = 0 then "" else String.ofList (Shortest.trimZeros fraction), exponent⟩

/-- The digits, where the point stands after the given number of them. -/
def ofDigits (digits : List Char) (point exponent : Int) : DecimalParts :=
  if point ≤ 0 then ⟨"0", "".pushn '0' (-point).toNat ++ String.ofList digits, exponent⟩
  else
    let whole := String.ofList (digits.take point.toNat)
    ⟨whole ++ "".pushn '0' (point.toNat - digits.length), String.ofList (digits.drop point.toNat),
      exponent⟩

def positional (places : Nat) (d : Dyad) : DecimalParts :=
  if d.mantissa = 0 then ⟨"0", "", 0⟩
  else
    let r := Shortest.digitsAndPoint d
    let digits := Shortest.trimZeros r.1
    if (digits.length : Int) - r.2 ≤ places then ofDigits digits r.2 0
    else
      let f := d.fraction
      ofUnits places (roundScaled f.1 f.2 10 places) 0

/-- A magnitude with one digit before the point and a power of ten. -/
def scientific (places : Nat) (d : Dyad) : DecimalParts :=
  if d.mantissa = 0 then ⟨"0", "", 0⟩
  else
    let r := Shortest.digitsAndPoint d
    let digits := Shortest.trimZeros r.1
    if digits.length ≤ places + 1 then ofDigits digits 1 (r.2 - 1)
    else
      let f := d.fraction
      let s := Scientific.ofQuotient places f.1 f.2
      ofUnits places s.digits s.exponent

def signed (negative : Bool) (p : DecimalParts) : DecimalParts :=
  if negative then { p with whole := "-" ++ p.whole } else p

end DecimalParts

end BlockCyclic
