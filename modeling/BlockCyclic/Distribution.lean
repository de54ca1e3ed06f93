import BlockCyclic.Dense

/-!
# Dealing out a matrix

Both axes of a matrix are cut into blocks of equal length, and the blocks of an axis are
dealt out in turn to the processes along that axis of a grid. The entries that one grid
position holds form a region.
-/

namespace BlockCyclic

/-!
# Axes

Four closed formulas describe how an axis is dealt: how many indices a process holds,
which process holds an index, in which local slot it sits there, and which index a
local slot holds.

All of them are total on the integers. The quotient and the remainder go to the
floor, so that negative indices and sources continue the same pattern.
-/

structure Axis where
  block : Int
  procs : Int
  /-- The process that receives the first block. -/
  source : Int
deriving DecidableEq, Repr

namespace Axis

/-- Distance of process `p` from the source, in the order of the deal. -/
def offset (a : Axis) (p : Int) : Int :=
  (a.procs + p - a.source).fmod a.procs

/--
Number of the first `n` indices that process `p` holds: a share of the full
blocks, one more for the processes next to the source, and the trailing partial
block for the process right after those.
-/
def extent (a : Axis) (n p : Int) : Int :=
  let blocks := n.fdiv a.block
  let share := blocks.fdiv a.procs * a.block
  let extra := blocks.fmod a.procs
  if a.offset p < extra then share + a.block
  else if a.offset p = extra then share + n.fmod a.block
  else share

def owner (a : Axis) (g : Int) : Int :=
  (a.source + g.fdiv a.block).fmod a.procs

def slot (a : Axis) (g : Int) : Int :=
  g.fdiv (a.block * a.procs) * a.block + g.fmod a.block

def index (a : Axis) (p l : Int) : Int :=
  l.fdiv a.block * a.block * a.procs + a.offset p * a.block + l.fmod a.block

def indices (a : Axis) (n p : Int) : List Int :=
  (List.range (a.extent n p).toNat).map fun l : Nat => a.index p l

end Axis

/-!
# Regions

A region consists of all rows and all columns that are dealt to a grid position.
-/

structure Distribution where
  rows : Int
  cols : Int
  rowAxis : Axis
  colAxis : Axis
deriving DecidableEq, Repr

structure Region where
  rows : Array Nat
  cols : Array Nat
deriving DecidableEq, Repr

namespace Distribution

/-- A distribution whose first block lies at the origin of the grid. -/
def atOrigin (shape blocks grid : Int × Int) : Distribution where
  rows := shape.1
  cols := shape.2
  rowAxis := ⟨blocks.1, grid.1, 0⟩
  colAxis := ⟨blocks.2, grid.2, 0⟩

def localShape (d : Distribution) (prow pcol : Int) : Int × Int :=
  (d.rowAxis.extent d.rows prow, d.colAxis.extent d.cols pcol)

def region (d : Distribution) (prow pcol : Int) : Region where
  rows := ((d.rowAxis.indices d.rows prow).map Int.toNat).toArray
  cols := ((d.colAxis.indices d.cols pcol).map Int.toNat).toArray

/-- The number of the grid position that owns an entry, counted row by row. -/
def ownerRank (d : Distribution) (i j : Int) : Int :=
  d.rowAxis.owner i * d.colAxis.procs + d.colAxis.owner j

end Distribution

namespace Region

def count (r : Region) : Nat :=
  r.rows.size * r.cols.size

end Region

def Dense.restrict {alpha : Type} [Zero alpha] (x : Dense alpha) (r : Region) : Dense alpha :=
  Dense.ofFn r.rows.size r.cols.size fun i j => x.get (r.rows.getD i 0) (r.cols.getD j 0)

/-- The matrix with the entries of a region replaced by a list in local column order. -/
def Dense.place {alpha : Type} [Zero alpha] (x : Dense alpha) (r : Region) (flat : Array alpha) :
    Dense alpha :=
  x.mapPlaces fun i j old =>
    match r.rows.idxOf? i, r.cols.idxOf? j with
    | some a, some b => flat.getD (a + b * r.rows.size) old
    | _, _ => old

end BlockCyclic
