import BlockCyclic.Number.Exact

/-!
# Reading numerals

A numeral may stand between blanks, have a sign, and use the decimal digits of any
script. Single underscores may part its digits.
-/

namespace BlockCyclic
namespace Numeral

/-!
# Characters
-/

/-- The zeros of all scripts with decimal digits; nine digits follow each in order. -/
def zeros : List Nat :=
  [0x30, 0x660, 0x6f0, 0x7c0, 0x966, 0x9e6, 0xa66, 0xae6, 0xb66, 0xbe6, 0xc66, 0xce6, 0xd66,
    0xde6, 0xe50, 0xed0, 0xf20, 0x1040, 0x1090, 0x17e0, 0x1810, 0x1946, 0x19d0, 0x1a80, 0x1a90,
    0x1b50, 0x1bb0, 0x1c40, 0x1c50, 0xa620, 0xa8d0, 0xa900, 0xa9d0, 0xa9f0, 0xaa50, 0xabf0,
    0xff10, 0x104a0, 0x10d30, 0x11066, 0x110f0, 0x11136, 0x111d0, 0x112f0, 0x11450, 0x114d0,
    0x11650, 0x116c0, 0x11730, 0x118e0, 0x11950, 0x11c50, 0x11d50, 0x11da0, 0x16a60, 0x16ac0,
    0x16b50, 0x1d7ce, 0x1d7d8, 0x1d7e2, 0x1d7ec, 0x1d7f6, 0x1e140, 0x1e2f0, 0x1e950, 0x1fbf0]

/-- The value of a decimal digit of any script. -/
def digit? (c : Char) : Option Nat :=
  (zeros.find? fun z => z ≤ c.toNat && c.toNat < z + 10).map fun z => c.toNat - z

def isBlank (c : Char) : Bool :=
  let k := c.toNat
  (9 ≤ k && k ≤ 13) || k == 0x20 || k == 0x85 || k == 0xa0 || k == 0x1680
    || (0x2000 ≤ k && k ≤ 0x200a) || k == 0x2028 || k == 0x2029 || k == 0x202f || k == 0x205f
    || k == 0x3000

def trim (cs : List Char) : List Char :=
  ((cs.dropWhile isBlank).reverse.dropWhile isBlank).reverse

def signed (cs : List Char) : Bool × List Char :=
  match cs with
  | '-' :: rest => (true, rest)
  | '+' :: rest => (false, rest)
  | _ => (false, cs)

/-!
# Digits
-/

/-- Digits, parted by single underscores. -/
def digits? : List Char -> Option (List Nat)
  | [] => none
  | [c] => (digit? c).map fun d => [d]
  | c :: '_' :: rest => do
      let d <- digit? c
      let ds <- digits? rest
      return d :: ds
  | c :: rest => do
      let d <- digit? c
      let ds <- digits? rest
      return d :: ds

/-- The value of digits, the first one being the highest. -/
def value (ds : List Nat) : Nat :=
  ds.foldl (fun n d => 10 * n + d) 0

def maxDigits : Nat := 4300

def integer? (s : String) : Option Int :=
  let parts := signed (trim s.toList)
  match digits? parts.2 with
  | some ds =>
      if ds.length ≤ maxDigits then
        some (if parts.1 then -(value ds : Int) else value ds)
      else none
  | none => none

/-!
# Decimal fractions
-/

def someDigits? : List Char -> Option (List Nat)
  | [] => some []
  | cs => digits? cs

/-- Digits before and after a point; one side may be missing. -/
def mantissa? (cs : List Char) : Option (List Nat × List Nat) := do
  let whole <- someDigits? (cs.takeWhile (· != '.'))
  let rest := cs.dropWhile (· != '.')
  let fraction <- someDigits? (rest.drop 1)
  if whole.isEmpty && fraction.isEmpty then none else return (whole, fraction)

/-- An exponent, which may be missing. -/
def exponent? : List Char -> Option Int
  | [] => some 0
  | _ :: rest => do
      let parts := signed rest
      let ds <- digits? parts.2
      return if parts.1 then -(value ds : Int) else value ds

/-- The double nearest to a decimal; beyond the given exponents it is zero or infinite. -/
def ofDecimal (negative : Bool) (ds : List Nat) (exponent : Int) : Exact :=
  let n := value ds
  let high : Int := exponent + ds.length
  if n = 0 || high < -400 then .finite negative ⟨0, 0⟩
  else if 400 < exponent then .infinite negative
  else
    let f := scaleFraction n 1 10 exponent
    .ofQuotient .double negative f.1 f.2

def isExponentMark (c : Char) : Bool :=
  c == 'e' || c == 'E'

def real? (s : String) : Option Exact :=
  let parts := signed (trim s.toList)
  let word := String.ofList (parts.2.map Char.toLower)
  if word = "nan" then some .nan
  else if word = "inf" || word = "infinity" then some (.infinite parts.1)
  else do
    let m <- mantissa? (parts.2.takeWhile fun c => !isExponentMark c)
    let e <- exponent? (parts.2.dropWhile fun c => !isExponentMark c)
    return ofDecimal parts.1 (m.1 ++ m.2) (e - m.2.length)

end Numeral
end BlockCyclic
