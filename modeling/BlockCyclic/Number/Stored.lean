import BlockCyclic.Number.Format
import BlockCyclic.Size.Argument
import BlockCyclic.Text.Numeral

/-!
# Storing loosely typed values

A value of any kind is stored as a number of a given format. Integers must lie in the
range of the format, fractions lose what follows the point, a text is read as a
numeral, and an absent value counts as no number where the format has such a value.
-/

namespace BlockCyclic

def specialWords : List (String × Exact) :=
  [("nan", .nan), ("inf", .infinite false), ("-inf", .infinite true),
    ("-0.0", .finite true ⟨0, 0⟩)]

namespace Argument

/-- A value with the words that stand for doubles replaced by them, also inside lists. -/
def spelled : Argument -> Argument
  | text s =>
      match specialWords.find? fun w => w.1 == s with
      | some w => fraction w.2.toFloat
      | none => text s
  | list items => list (items.attach.map fun ⟨a, _⟩ => spelled a)
  | a => a

def plainNumber? : Argument -> Option Number
  | truth b => some (.int (if b then 1 else 0))
  | whole i => some (.int i)
  | fraction x => some (.real x)
  | _ => none

def plainNumber (a : Argument) : Except Failure Number :=
  match a.plainNumber? with
  | some x => .ok x
  | none => .error .unusable

/-- The number that a value is, or the one that a word stands for. -/
def number? (a : Argument) : Option Number :=
  a.spelled.plainNumber?

def number (a : Argument) : Except Failure Number :=
  match a.number? with
  | some x => .ok x
  | none => .error .unusable

/-- Whether a value counts as true: it is neither absent nor zero nor empty. -/
def isTruthy : Argument -> Bool
  | absent => false
  | truth b => b
  | whole i => i != 0
  | fraction x => x != 0.0
  | text s => !s.isEmpty
  | list items => !items.isEmpty
  | record fields => !fields.isEmpty

end Argument

def doubleOf (i : Int) : Except Failure Float :=
  let x := Exact.ofInt .double i
  if x.isFinite then .ok x.toFloat else .error .overflow

def Number.double : Number -> Except Failure Float
  | int i => doubleOf i
  | real x => .ok x

/-- The integer part of a double; of no number, and of an infinite one, there is none. -/
def integerPart (x : Exact) : Except Failure Int :=
  match x with
  | .nan => .error (.value .unsuitable)
  | .infinite _ => .error .overflow
  | x =>
      match x.truncate? with
      | some i => .ok i
      | none => .error .overflow

namespace Argument

/-- The double that a value is read as; an absent one is no number. -/
def double : Argument -> Except Failure Float
  | absent => .ok (0.0 / 0.0)
  | truth b => .ok (if b then 1.0 else 0.0)
  | whole i => doubleOf i
  | fraction x => .ok x
  | text s =>
      match Numeral.real? s with
      | some x => .ok x.toFloat
      | none => .error (.value .unsuitable)
  | list _ => .error (.value .unsuitable)
  | record _ => .error .unusable

def wholePart : Argument -> Except Failure Int
  | truth b => .ok (if b then 1 else 0)
  | whole i => .ok i
  | fraction x => integerPart (Exact.ofFloat x)
  | text s =>
      match Numeral.integer? s with
      | some i => .ok i
      | none => .error (.value .unsuitable)
  | _ => .error .unusable

/-- The integer that a value is read as, from the first one up to below the second one. -/
def wordWithin (range : Int × Int) (a : Argument) : Except Failure Int := do
  let i <- a.wholePart
  if range.1 ≤ i ∧ i < range.2 then return i else .error .overflow

end Argument

namespace NumberFormat

/-- The integers that an integer format holds, as a half-open range. -/
def wordRange : NumberFormat -> Int × Int
  | signed bits => signedRange bits
  | unsigned bits => (0, Int.ofNat (Nat.pow 2 bits))
  | _ => (0, 2)

def isWord (i : Int) : Bool :=
  (signedRange 64).1 ≤ i && i < Int.ofNat (Nat.pow 2 64)

def store (f : NumberFormat) (a : Argument) : Except Failure Number :=
  match f with
  | bool => .ok (.int (if a.isTruthy then 1 else 0))
  | signed _ | unsigned _ => (a.wordWithin f.wordRange).map Number.int
  | extended | complexExtended =>
      match a with
      | .whole i => if isWord i then .ok (.int i) else (doubleOf i).map Number.real
      | other => other.double.map Number.real
  | half | real _ | complex _ => a.double.map fun x => f.convert (.real x)

end NumberFormat

/-!
# Statuses from loosely typed values

A status may be given as any number, or as a text that denotes an integer. What
follows the point of a number is dropped.
-/

def Argument.fractionStatus : Argument -> Except Failure Int
  | text s =>
      match Numeral.real? s with
      | some x => integerPart x
      | none => .error (.value .unsuitable)
  | other => other.wholePart

def KernelFailure.ofArguments (routine : Argument) (status : Except Failure Int) :
    Except Failure KernelFailure :=
  status.map fun s => ⟨routine.printed, s⟩

end BlockCyclic
