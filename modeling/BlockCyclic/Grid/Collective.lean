/-!
# Groups of processes and what they exchange

Of `n` processes some form a group, in which they are numbered in the order of the
group. In a collective operation every process brings a value, and what it takes away is a
function of the values in its group. A process without a group keeps what it has.
-/

namespace BlockCyclic

/-- The members of a group, in the order of their numbers in it. -/
abbrev Group (n : Nat) := List (Fin n)

abbrev Communicator (n : Nat) := Fin n -> Option (Group n)

namespace Communicator

variable {n : Nat}

def world : Communicator n :=
  fun _ => some (List.finRange n)

def null : Communicator n :=
  fun _ => none

/--
The members of each group are parted by colour and ordered by key, equal keys by
their numbers in the old group. A process without a colour leaves.
-/
def split (c : Communicator n) (colour : Fin n -> Option Nat) (key : Fin n -> Nat) :
    Communicator n := fun r =>
  match c r, colour r with
  | some g, some k =>
      some ((g.filter fun s => colour s == some k).mergeSort fun s t => key s ≤ key t)
  | _, _ => none

def rank? (c : Communicator n) (r : Fin n) : Option Nat :=
  (c r).map fun g => g.idxOf r

def size? (c : Communicator n) (r : Fin n) : Option Nat :=
  (c r).map List.length

end Communicator

/-!
# Collective operations
-/

variable {n : Nat} {alpha beta : Type}

abbrev PerProcess (n : Nat) (alpha : Type) := Vector alpha n

namespace Communicator

def from? (c : Communicator n) (root : Nat) (values : PerProcess n alpha) (r : Fin n) :
    Option alpha :=
  match c r with
  | some g => g[root]?.map fun s => values.get s
  | none => none

def broadcast (c : Communicator n) (root : Nat) (values : PerProcess n alpha) :
    PerProcess n alpha :=
  Vector.ofFn fun r => (c.from? root values r).getD (values.get r)

/-- A buffer whose first entries are replaced by those of another one. -/
def overwrite (buffer source : Array alpha) : Array alpha :=
  source ++ buffer.extract source.size buffer.size

def broadcastBuffer (c : Communicator n) (root : Nat) (buffers : PerProcess n (Array alpha)) :
    PerProcess n (Array alpha) :=
  Vector.ofFn fun r =>
    match c.from? root buffers r with
    | some source => overwrite (buffers.get r) source
    | none => buffers.get r

def bufferHolds (c : Communicator n) (root : Nat) (buffers : PerProcess n (Array alpha))
    (r : Fin n) : Bool :=
  match c.from? root buffers r with
  | some source => source.size ≤ (buffers.get r).size
  | none => true

def combine (op : alpha -> alpha -> alpha) (values : PerProcess n alpha) :
    Group n -> Option alpha
  | [] => none
  | s :: rest => some (rest.foldl (fun acc t => op acc (values.get t)) (values.get s))

def allreduce (c : Communicator n) (op : alpha -> alpha -> alpha) (values : PerProcess n alpha) :
    PerProcess n (Option alpha) :=
  Vector.ofFn fun r => (c r).bind (combine op values)

/-- As `allreduce`, entry by entry on buffers of equal length. -/
def allreduceBuffer (c : Communicator n) (op : alpha -> alpha -> alpha)
    (buffers : PerProcess n (Array alpha)) : PerProcess n (Option (Array alpha)) :=
  c.allreduce (fun a b => Array.zipWith op a b) buffers

end Communicator

/-!
# Reading the values of all processes

Two families of values are equal as soon as every process holds the same in both.
-/

namespace PerProcess

theorem get_eq_getElem (values : PerProcess n alpha) (r : Fin n) :
    values.get r = values[r.val] := rfl

@[simp] theorem get_ofFn (f : Fin n -> alpha) (r : Fin n) : (Vector.ofFn f).get r = f r := by
  rw [get_eq_getElem, Vector.getElem_ofFn]

@[simp] theorem get_map (f : alpha -> beta) (values : PerProcess n alpha) (r : Fin n) :
    (values.map f).get r = f (values.get r) := by
  rw [get_eq_getElem, get_eq_getElem, Vector.getElem_map]

@[simp] theorem get_replicate (x : alpha) (r : Fin n) :
    (Vector.replicate n x).get r = x := by
  rw [get_eq_getElem, Vector.getElem_replicate]

theorem ext {values others : PerProcess n alpha}
    (h : forall r, values.get r = others.get r) : values = others := by
  apply Vector.ext
  intro k hk
  exact h ⟨k, hk⟩

end PerProcess

end BlockCyclic
