import BlockCyclic.Number.ElementType.Name
import BlockCyclic.Sheet.Entry

/-!
# Sheets from nested lists

Nested lists that agree in shape are a sheet. Either their items take one common kind
first, and are then converted to an element type, or every item is stored in an array
of that type by itself.
-/

namespace BlockCyclic
namespace Sheet

def flatten (a : Argument) : Except Failure (List Nat × List Argument) :=
  let fuel := a.depth + 1
  match a.extents? fuel with
  | some dims => .ok (dims, a.leaves fuel)
  | none => .error (.value .unsuitable)

/-!
# Shapes
-/

/-- Extents with at most one left open, by a negative number, for the given number of entries. -/
def fitExtents (dims : List Int) (count : Nat) : Except Failure (List Nat) :=
  let known := volume ((dims.filter (0 ≤ ·)).map Int.toNat)
  match dims.filter (· < 0) with
  | [] => if known = count then .ok (dims.map Int.toNat) else .error (.value .unsuitable)
  | [_] =>
      if known = 0 ∨ count % known ≠ 0 then .error (.value .unsuitable)
      else .ok (dims.map fun k => if k < 0 then count / known else k.toNat)
  | _ => .error (.value .unsuitable)

def extentsOf : Argument -> Except Failure (List Int)
  | .list items => items.mapM fun a =>
      match a.integer? with
      | some i => .ok i
      | none => .error .unusable
  | a =>
      match a.integer? with
      | some i => .ok [i]
      | none => .error .unusable

def reshape {delta : Type} (s : Sheet delta) (dims : List Int) : Except Failure (Sheet delta) :=
  (fitExtents dims s.entries.size).map fun d => { s with dims := d }

/-!
# Conversion
-/

def converted (t : ElementType) (kind : EntryKind) (dims : List Nat) (items : List Argument) :
    Except Failure (Sheet Entry) :=
  match t with
  | .cell c => do
      let item := c.item.fixLength kind items
      let block := c.dims.getD []
      let entries <- items.mapM (item.convert kind)
      return ⟨dims ++ block, .ofItem item,
        (entries.flatMap fun e => List.replicate (volume block) e).toArray⟩
  | .record _ =>
      .ok ⟨dims, t, (items.map fun _ => .error .unusable).toArray⟩

/-- The sheet of nested lists whose items take a common kind before they are converted. -/
def ofNested (elementType : Argument) (reshaped : Option Argument) (a : Argument) :
    Except Failure (Sheet Entry) := do
  let (dims, items) <- flatten a.spelled
  let t <- ElementType.ofArgument elementType
  let s <- converted t (EntryKind.ofItems items) dims items
  match reshaped with
  | none | some .absent => return s
  | some shape => s.reshape (<- extentsOf shape)

def ofItems (elementType : Argument) (a : Argument) : Except Failure (Sheet Entry) := do
  let t <- ElementType.ofArgument elementType
  let (dims, items) <- flatten a.spelled
  match t with
  | .cell c =>
      let item := c.item.fixLength .mixed items
      let entries <- items.mapM item.store
      return ⟨dims, .ofItem item, entries.toArray⟩
  | .record _ => return ⟨dims, t, (items.map fun _ => .error .unusable).toArray⟩

/-- The type that items of a kind are stored in, where none is asked for. -/
def usualType : EntryKind -> ElementType
  | .truth => .ofFormat .bool
  | .signed => .ofFormat (.signed 64)
  | .unsigned => .ofFormat (.unsigned 64)
  | .double => .ofPrecision .double
  | .text => .ofItem (.text 0 false)
  | .mixed => .ofItem .object

/-- The sheet of a value whose items take a common kind, which is kept as far as possible. -/
def ofValue (a : Argument) : Except Failure (Sheet Entry) := do
  let (dims, items) <- flatten a.spelled
  let kind := EntryKind.ofItems items
  let entry (a : Argument) : Entry :=
    match kind with
    | .truth | .signed | .unsigned | .double => .ok (ItemType.numberOf kind a)
    | .text | .mixed => ((ItemType.unified kind a).double).map Number.real
  return ⟨dims, usualType kind, (items.map entry).toArray⟩

end Sheet
end BlockCyclic
