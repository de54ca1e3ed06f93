import BlockCyclic.Descriptor
import BlockCyclic.Grid
import BlockCyclic.Words

/-!
# Layout of a distributed matrix

The layout of a matrix never changes: its grid, its shape, the sizes of its blocks
and the precision of its content. The local shapes, the descriptors and the indices
that each process holds all follow from it.
-/

namespace BlockCyclic

structure Layout (n : Nat) where
  grid : Grid n
  rows : Nat
  cols : Nat
  rowBlock : Nat
  colBlock : Nat
  precision : Precision
  rows_pos : 0 < rows
  cols_pos : 0 < cols
  rowBlock_pos : 0 < rowBlock
  colBlock_pos : 0 < colBlock

namespace Layout

variable {n : Nat}

def shape (l : Layout n) : Int × Int :=
  (l.rows, l.cols)

def blockSizes (l : Layout n) : Int × Int :=
  (l.rowBlock, l.colBlock)

def distribution (l : Layout n) : Distribution :=
  Distribution.atOrigin l.shape l.blockSizes l.grid.shape

/-- Numbers of rows and columns that a process holds; none if it is left out. -/
def localShape (l : Layout n) (r : Fin n) : Nat × Nat :=
  if l.grid.active r then
    let e := l.distribution.localShape (l.grid.coords r).1 (l.grid.coords r).2
    (e.1.toNat, e.2.toNat)
  else (0, 0)

def descriptor (l : Layout n) (r : Fin n) : Descriptor :=
  Descriptor.create l.shape l.blockSizes (l.grid.contextOf r) (l.localShape r).1 (0, 0)

def rowIndex (l : Layout n) (r : Fin n) (i : Int) : Int :=
  l.distribution.rowAxis.index (l.grid.coords r).1 i

def colIndex (l : Layout n) (r : Fin n) (j : Int) : Int :=
  l.distribution.colAxis.index (l.grid.coords r).2 j

def indices (l : Layout n) (r : Fin n) : Region where
  rows := (Array.range (l.localShape r).1).map fun i : Nat => (l.rowIndex r i).toNat
  cols := (Array.range (l.localShape r).2).map fun j : Nat => (l.colIndex r j).toNat

def aboveDiagonal (l : Layout n) (r : Fin n) (i j : Nat) : Bool :=
  decide (l.rowIndex r i < l.colIndex r j)

/-- The number of the process that owns an entry, counted along the grid. -/
def ownerOf (l : Layout n) (i j : Nat) : Int :=
  l.distribution.ownerRank i j

def ownershipMap (l : Layout n) : List (List Int) :=
  (List.range l.rows).map fun i => (List.range l.cols).map fun j => l.ownerOf i j

/-!
# Limits of a layout

A layout can ask for more than words hold, or for more than a process has room for.
-/

/-- Whether whole matrices can be cut into local blocks. -/
def regionsFit (l : Layout n) : Bool :=
  l.distribution.regionsFit (l.grid.rows, l.grid.cols)

def entryBytes (l : Layout n) : Nat :=
  (NumberFormat.real l.precision).bytes

/-- Refuses a local block whose size in bytes is no word, or for which there is no room. -/
def checkRoom (l : Layout n) (r : Fin n) : Except Failure Unit :=
  let e := l.localShape r
  let bytes := max 1 e.1 * max 1 e.2 * l.entryBytes
  if !Words.fits bytes then .error (.value .unsuitable)
  else if roomForEntries < e.1 * e.2 then .error .noRoom
  else .ok ()

/-!
# Tables of indices
-/

def checkAxis (length : Nat) (fits : Bool) : Except Failure Unit := do
  let _ <- countingLength length
  if !fits then throw .overflow

def checkIndices (l : Layout n) (r : Fin n) : Except Failure Unit := do
  let e := l.localShape r
  let position := l.grid.coords r
  checkAxis e.1 (l.distribution.rowAxis.indicesFit position.1)
  checkAxis e.2 (l.distribution.colAxis.indicesFit position.2)

def checkOwners (l : Layout n) : Except Failure Unit := do
  checkAxis l.rows l.distribution.rowAxis.ownersFit
  checkAxis l.cols l.distribution.colAxis.ownersFit
  let _ <- countingLength (l.rows * l.cols : Nat)

end Layout

end BlockCyclic
