import BlockCyclic.Dense
import BlockCyclic.Number.ElementType

/-!
# Sheets

A sheet is what comes from outside: entries in row order, of any element type and
with any number of dimensions. A sheet of the right shape becomes a matrix, and a
smaller one may be stretched along axes on which it has a single entry.
-/

namespace BlockCyclic

def volume (dims : List Nat) : Nat :=
  dims.foldl (· * ·) 1

/-- Entries in row order, the last axis running fastest. -/
structure Sheet (delta : Type) where
  dims : List Nat
  elementType : ElementType
  entries : Array delta

namespace Sheet

variable {alpha delta : Type}

def isReal (s : Sheet delta) (rows cols : Nat) : Bool :=
  s.dims == [rows, cols] && !s.elementType.isComplex

def entryAt [Zero alpha] (enter : delta -> alpha) (s : Sheet delta) (place : Nat) : alpha :=
  match s.entries[place]? with
  | some x => enter x
  | none => 0

def toDense [Zero alpha] (enter : delta -> alpha) (s : Sheet delta) (rows cols : Nat) :
    Dense alpha :=
  Dense.ofFn rows cols fun i j => s.entryAt enter (i * cols + j)

/-- The position that entry `i` of a stretched axis comes from. -/
def stretched (extent i : Nat) : Nat :=
  if extent = 1 then 0 else i

def stretches (extent target : Nat) : Bool :=
  extent == target || extent == 1

def stretch? [Zero alpha] (enter : delta -> alpha) (s : Sheet delta) (rows cols : Nat) :
    Option (Dense alpha) :=
  match s.dims with
  | [] => some (Dense.ofFn rows cols fun _ _ => s.entryAt enter 0)
  | [k] =>
      if stretches k cols then
        some (Dense.ofFn rows cols fun _ j => s.entryAt enter (stretched k j))
      else none
  | [l, k] =>
      if stretches l rows && stretches k cols then
        some (Dense.ofFn rows cols fun i j =>
          s.entryAt enter (stretched l i * k + stretched k j))
      else none
  | _ => none

end Sheet
end BlockCyclic
