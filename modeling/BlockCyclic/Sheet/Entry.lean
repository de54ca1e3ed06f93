import BlockCyclic.Number.Stored
import BlockCyclic.Sheet
import BlockCyclic.Size.Uniform

/-!
# Entries of sheets

An entry is the number that it becomes once it enters a matrix, or the reason why it
cannot enter one. Text enters by its numeral, after it has been cut to the length of
its type.
-/

namespace BlockCyclic

/-- The number that enters a matrix, or why there is none. -/
abbrev Entry := Except Failure Number

namespace ItemType

def cut (length : Nat) (s : String) : String :=
  if length = 0 then s else String.ofList (s.toList.take length)

def numeralEntry (s : String) : Entry :=
  (Argument.double (.text s)).map Number.real

def otherEntry (t : ItemType) (a : Argument) : Except Failure Entry :=
  match t with
  | text length _ | bytes length => .ok (numeralEntry (cut length a.printed))
  | anyText => .ok (numeralEntry a.printed)
  | object => .ok (a.double.map Number.real)
  | time .. => (a.wordWithin (NumberFormat.signedRange 64)).map fun i => .ok (.int i)
  | raw _ | number .. => .ok (.error .unusable)

def store (t : ItemType) (a : Argument) : Except Failure Entry :=
  match t with
  | number f _ => (f.store a).map .ok
  | other => other.otherEntry a

/-- An item of an array whose entries have a common kind, as a number. -/
def numberOf (kind : EntryKind) (a : Argument) : Number :=
  match kind with
  | .double => .real a.toDouble
  | _ => .int (a.integer?.getD 0)

def unified (kind : EntryKind) (a : Argument) : Argument :=
  match kind with
  | .double => .fraction a.toDouble
  | .text => .text a.printed
  | .signed | .unsigned => .whole (a.integer?.getD 0)
  | .truth | .mixed => a

def convert (t : ItemType) (kind : EntryKind) (a : Argument) : Except Failure Entry :=
  match t, kind with
  | number _ _, .text | number _ _, .mixed => t.store (unified kind a)
  | number f _, _ => .ok (.ok (f.convert (numberOf kind a)))
  | other, _ => other.otherEntry (unified kind a)

/-!
# Open lengths
-/

def textLength (kind : EntryKind) (items : List Argument) : Nat :=
  match kind with
  | .text | .mixed => (items.map fun a => a.printed.length).foldl max 1
  | other => other.textWidth

def kindBytes (kind : EntryKind) (items : List Argument) : Nat :=
  match kind with
  | .truth => 1
  | .text => 4 * textLength kind items
  | _ => 8

/-- The type with an open length fixed by the items of an array. -/
def fixLength (t : ItemType) (kind : EntryKind) (items : List Argument) : ItemType :=
  match t with
  | text 0 swapped => text (textLength kind items) swapped
  | bytes 0 => bytes (textLength kind items)
  | raw 0 => raw (kindBytes kind items)
  | other => other

end ItemType

namespace Sheet

/-- The first reason why an entry cannot enter a matrix. -/
def obstacle? (s : Sheet Entry) : Option Failure :=
  s.entries.findSome? fun e =>
    match e with
    | .error f => some f
    | .ok _ => none

def entering (s : Sheet Entry) : Except Failure (Sheet Entry) :=
  match s.obstacle? with
  | some f => .error f
  | none => .ok s

def numbers (s : Sheet Entry) : Array Number :=
  s.entries.map fun e =>
    match e with
    | .ok x => x
    | .error _ => 0

end Sheet
end BlockCyclic
