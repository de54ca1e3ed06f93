import BlockCyclic.Failure
import BlockCyclic.Text

/-!
# Loosely typed arguments

Sizes, names and counts may be given as any value; what is not usable is refused
and shown in the refusal.
-/

namespace BlockCyclic

inductive Argument where
  | absent
  | truth (value : Bool)
  | whole (value : Int)
  | fraction (value : Float)
  | text (value : String)
  | list (items : List Argument)
  | record (fields : List (String × Argument))

namespace Argument

/-- Items in parentheses; a single one is followed by a comma. -/
def tupleText (items : List String) : String :=
  match items with
  | [s] => "(" ++ s ++ ",)"
  | _ => "(" ++ ", ".intercalate items ++ ")"

def literal : Argument -> String
  | absent => "None"
  | truth b => if b then "True" else "False"
  | whole i => toString i
  | fraction x => (Exact.ofFloat x).shortest
  | text s => Quoted.text s
  | list items => "[" ++ ", ".intercalate (items.attach.map fun ⟨a, _⟩ => literal a) ++ "]"
  | record fields =>
      "\x7b" ++ ", ".intercalate
        (fields.attach.map fun ⟨f, _⟩ => Quoted.text f.1 ++ ": " ++ literal f.2) ++ "\x7d"
termination_by a => sizeOf a
decreasing_by
  all_goals simp_wf
  · rename_i h
    have := List.sizeOf_lt_of_mem h
    omega
  · rename_i h
    have := List.sizeOf_lt_of_mem h
    cases f
    simp at *
    omega

/-- The value as it is printed; text stands without quotes. -/
def printed : Argument -> String
  | text s => s
  | a => a.literal

/-- What a value consists of: items, characters, or names of fields. -/
def items : Argument -> Except Failure (List Argument)
  | list xs => .ok xs
  | text s => .ok (s.toList.map fun c => text (String.singleton c))
  | record fields => .ok (fields.map fun f => text f.1)
  | _ => .error .unusable

/-- The item at a place, if there are so many; a record has no places. -/
def itemAt (a : Argument) (k : Nat) : Except Failure Argument := do
  match a with
  | record _ => .error .unknownName
  | other =>
      match (<- other.items)[k]? with
      | some x => return x
      | none => .error (.index .unsuitable)

def two (a : Argument) : Except Failure (Argument × Argument) := do
  match <- a.items with
  | [x, y] => return (x, y)
  | _ => .error (.value .unsuitable)

def integer? : Argument -> Option Int
  | truth b => some (if b then 1 else 0)
  | whole i => some i
  | _ => none

end Argument

/-!
# Entries of a size
-/

/-- An entry of a size: how it is shown, and the integer that it is. -/
structure SizeEntry where
  shown : String
  integer? : Option Int
deriving DecidableEq, Repr

abbrev Size := List SizeEntry

namespace Size

def text (s : Size) : String :=
  Argument.tupleText (s.map SizeEntry.shown)

/-- Entries that are shown as they were given. -/
def plain (items : List Argument) : Size :=
  items.map fun a => ⟨a.literal, a.integer?⟩

def positive? (e : SizeEntry) : Option Nat :=
  match e.integer? with
  | some i => if 1 ≤ i then some i.toNat else none
  | none => none

def positivePair? (s : Size) : Option (Nat × Nat) :=
  match s with
  | [a, b] =>
      match positive? a, positive? b with
      | some m, some n => some (m, n)
      | _, _ => none
  | _ => none

def checkPair (name : SizeName) (s : Size) : Except Failure (Nat × Nat) :=
  if s.length ≠ 2 then .error (.configuration (.notTwo name s.text))
  else
    match positivePair? s with
    | some p => .ok p
    | none => .error (.configuration (.notPositive name s.text))

end Size
end BlockCyclic
