import BlockCyclic.Size.Brackets

/-!
# Sizes of one kind

A size given as a list takes one kind of entry for all of its items: truth values,
signed or unsigned words, doubles, text, or, where none of these holds them all,
the items themselves. A single value stands for two equal entries. Lists inside a
list have to agree in shape and count as no numbers.
-/

namespace BlockCyclic
namespace EntryKind

/-- Signed words lie below this bound, unsigned ones below twice as much. -/
def wordBound : Int := Int.ofNat (Nat.pow 2 63)

def ofItem : Argument -> EntryKind
  | .truth _ => truth
  | .whole i =>
      if -wordBound ≤ i && i < wordBound then signed
      else if 0 ≤ i && i < 2 * wordBound then unsigned
      else mixed
  | .fraction _ => double
  | .text _ => text
  | _ => mixed

def join (a b : EntryKind) : EntryKind :=
  if a = b then a
  else
    match a, b with
    | mixed, _ | _, mixed => mixed
    | text, _ | _, text => text
    | truth, k | k, truth => k
    | _, _ => double

def ofItems : List Argument -> EntryKind
  | [] => double
  | a :: rest => rest.foldl (fun k b => k.join (ofItem b)) (ofItem a)

def textWidth : EntryKind -> Nat
  | truth => 5
  | signed => 21
  | unsigned => 20
  | double => 32
  | text | mixed => 1

def textLength (items : List Argument) : Nat :=
  (items.map fun a =>
    match ofItem a with
    | text | mixed => a.printed.length
    | kind => kind.textWidth).foldl max 1

end EntryKind

namespace Argument

def entry (kind : EntryKind) (a : Argument) : SizeEntry :=
  match kind with
  | .truth => ⟨"np." ++ a.literal ++ "_", none⟩
  | .signed => ⟨"np.int64(" ++ toString (a.integer?.getD 0) ++ ")", a.integer?⟩
  | .unsigned => ⟨"np.uint64(" ++ toString (a.integer?.getD 0) ++ ")", a.integer?⟩
  | .double => ⟨"np.float64(" ++ (Exact.ofFloat a.toDouble).shortest ++ ")", none⟩
  | .text => ⟨"np.str_(" ++ Quoted.text (Quoted.unpadded a.printed) ++ ")", none⟩
  | .mixed => ⟨a.literal, a.integer?⟩

def size? (a : Argument) : Except Failure Size :=
  match a with
  | text _ | record _ => .error .unusable
  | list items =>
      if items.any isList then
        match extents? (a.depth + 1) a with
        | none => .error (.value .unsuitable)
        | some _ =>
            let all := a.leaves (a.depth + 1)
            let write := Brackets.text (EntryKind.ofItems all) (EntryKind.textLength all)
            .ok (items.map fun item => ⟨write item, none⟩)
      else .ok (items.map (entry (EntryKind.ofItems items)))
  | single => .ok [entry (EntryKind.ofItem single) single, entry (EntryKind.ofItem single) single]

/-- The size that a value describes item by item, without a common kind. -/
def looseSize? (a : Argument) : Except Failure Size :=
  a.items.map Size.plain

end Argument
end BlockCyclic
