import BlockCyclic.Distribution
import BlockCyclic.Grid.Collective

/-!
# Transfer of whole matrices

A matrix that one process holds is cut into the regions of the grid, and their
entries travel in one flat buffer: region after region, each in local column order.
Counts and displacements tell every member which part of the buffer is its own. The
way back puts the parts into a buffer of the same layout and places them.
-/

namespace BlockCyclic

variable {n : Nat} {alpha beta : Type}

/-!
# Layout of the flat buffer
-/

/-- The sums of everything before each entry. -/
def exclusiveSums : List Nat -> List Nat :=
  go 0
where
  go (before : Nat) : List Nat -> List Nat
    | [] => []
    | c :: rest => before :: go (before + c) rest

/-- Regions of all members of a grid's group, with their parts of the buffer. -/
structure BlockTable where
  regions : List Region
  counts : List Nat
  displacements : List Nat
deriving DecidableEq, Repr

/-- The members of a group lie on the grid row by row. -/
def Distribution.blockTable (d : Distribution) (members : Nat) : BlockTable :=
  let regions := (List.range members).map fun k : Nat =>
    d.region ((k : Int).fdiv d.colAxis.procs) ((k : Int).fmod d.colAxis.procs)
  let counts := regions.map Region.count
  ⟨regions, counts, exclusiveSums counts⟩

namespace BlockTable

def total (t : BlockTable) : Nat :=
  t.counts.foldl (· + ·) 0

def part (t : BlockTable) (buffer : Array alpha) (k : Nat) : Array alpha :=
  let start := t.displacements.getD k 0
  buffer.extract start (start + t.counts.getD k 0)

def pack [Zero alpha] (t : BlockTable) (x : Dense alpha) : Array alpha :=
  (t.regions.flatMap fun r => (x.restrict r).entries.toList).toArray

/-- A buffer with `source` written from position `start` on. -/
def writeAt (buffer : Array alpha) (start : Nat) (source : Array alpha) : Array alpha :=
  buffer.mapIdx fun k old => if start ≤ k then source.getD (k - start) old else old

def collect (t : BlockTable) (unwritten : Nat -> alpha) (parts : List (Array alpha)) :
    Array alpha :=
  (t.displacements.zip parts).foldl (fun buffer p => writeAt buffer p.1 p.2)
    (Array.ofFn fun k : Fin t.total => unwritten k.val)

/-- All parts of a buffer placed in a matrix, in the order of the members. -/
def unpack [Zero alpha] (t : BlockTable) (target : Dense alpha) (buffer : Array alpha) :
    Dense alpha :=
  (t.regions.zipIdx).foldl (fun x p => x.place p.1 (t.part buffer p.2)) target

end BlockTable

/-!
# Scattering and gathering
-/

namespace Communicator

/--
The member with number `root` cuts its matrix, with its own block sizes, into the
regions of the grid and turns the entries into those of the local blocks; every member
refills its block with its part. What unwritten memory of the receivers holds is a
parameter: where the parts are as long as the blocks, it does not matter.
-/
def scatterFrom [Zero beta] (unwritten : Fin n -> Nat -> alpha) (enter : beta -> alpha)
    (c : Communicator n) (grid : Int × Int) (root : Nat) (blocks : Fin n -> Int × Int)
    (x : PerProcess n (Option (Dense beta))) (locals : PerProcess n (Dense alpha)) :
    PerProcess n (Dense alpha) :=
  Vector.ofFn fun r =>
    match c r with
    | none => locals.get r
    | some g =>
        match g[root]? with
        | none => locals.get r
        | some s =>
            match x.get s with
            | none => locals.get r
            | some m =>
                let d := Distribution.atOrigin (m.rows, m.cols) (blocks s) grid
                let t := d.blockTable g.length
                (locals.get r).refill (unwritten r)
                  (t.part ((t.pack m).map enter) (g.idxOf r))

/-- Scattering entries as they are, into memory that still holds the blocks. -/
def scatter [Zero alpha] (c : Communicator n) (grid : Int × Int) (root : Nat)
    (blocks : Fin n -> Int × Int) (x : PerProcess n (Option (Dense alpha)))
    (locals : PerProcess n (Dense alpha)) : PerProcess n (Dense alpha) :=
  c.scatterFrom (fun r k => (locals.get r).entries.getD k 0) id grid root blocks x locals

/--
The member with number `root` collects the local blocks of its group, laid out by its
own distribution, into a matrix. What the unwritten memory of the buffer and of the
matrix holds are parameters: where the regions cover the matrix, they do not matter.
-/
def gatherFrom [Zero alpha] (buffered unwritten : Nat -> alpha) (c : Communicator n)
    (root : Nat) (layout : Fin n -> Distribution) (locals : PerProcess n (Dense alpha)) :
    PerProcess n (Option (Dense alpha)) :=
  Vector.ofFn fun r =>
    match c r with
    | none => none
    | some g =>
        if g[root]? = some r then
          let d := layout r
          let t := d.blockTable g.length
          let target := Dense.ofFn d.rows.toNat d.cols.toNat fun i j =>
            unwritten (i + j * d.rows.toNat)
          some (t.unpack target (t.collect buffered (g.map fun s => (locals.get s).entries)))
        else none

def gather [Zero alpha] (c : Communicator n) (root : Nat) (layout : Fin n -> Distribution)
    (locals : PerProcess n (Dense alpha)) : PerProcess n (Option (Dense alpha)) :=
  c.gatherFrom (fun _ => 0) (fun _ => 0) root layout locals

end Communicator
end BlockCyclic
