import BlockCyclic.Grid.Collective
import BlockCyclic.Grid.Shape
import BlockCyclic.State

/-!
# Process grids

The first `rows * cols` of `n` processes are laid out row by row on a grid. The
processes of the grid, of each grid row and of each grid column form groups, and
so do the first process and those that are left out.
-/

namespace BlockCyclic

/-- A two-dimensional arrangement of the first of `n` processes. -/
structure Grid (n : Nat) where
  rows : Nat
  cols : Nat
  rows_pos : 0 < rows
  cols_pos : 0 < cols
  fits : rows * cols ≤ n
  /-- The handles by which the processes tell this grid from all others, each its own one. -/
  context : Fin n -> Int
  /-- The groups of a released grid are gone. -/
  released : Bool

namespace Grid

variable {n : Nat} {alpha : Type}

def shape (g : Grid n) : Int × Int :=
  (g.rows, g.cols)

def activeCount (g : Grid n) : Nat :=
  g.rows * g.cols

def inactiveCount (g : Grid n) : Nat :=
  n - g.activeCount

def active (g : Grid n) (r : Fin n) : Bool :=
  decide (r.val < g.activeCount)

/-- Grid row and column of a process; `-1` for both if it is left out. -/
def coords (g : Grid n) (r : Fin n) : Int × Int :=
  if g.active r then ((r.val / g.cols : Nat), (r.val % g.cols : Nat)) else (-1, -1)

/-!
# Groups of a grid
-/

def unlessReleased (g : Grid n) (c : Communicator n) : Communicator n :=
  if g.released then Communicator.null else c

def gridComm (g : Grid n) : Communicator n :=
  g.unlessReleased
    (Communicator.world.split (fun r => if g.active r then some 0 else none) fun r => r.val)

def rowComm (g : Grid n) : Communicator n :=
  g.gridComm.split (fun r => some (r.val / g.cols)) fun r => r.val % g.cols

def colComm (g : Grid n) : Communicator n :=
  g.gridComm.split (fun r => some (r.val % g.cols)) fun r => r.val / g.cols

/-- The first process and those that are left out. -/
def inactiveComm (g : Grid n) : Communicator n :=
  g.unlessReleased
    (Communicator.world.split
      (fun r => if r.val == 0 || !g.active r then some 0 else none) fun r => r.val)

/-- The identity that a process sees of the grid; `-1` if it is left out. -/
def contextOf (g : Grid n) (r : Fin n) : Int :=
  if g.active r then g.context r else -1

/-!
# Messages to the processes that are left out
-/

/-- Those left out take the value of the first process. -/
def sendToInactive (g : Grid n) (values : PerProcess n alpha) : PerProcess n alpha :=
  if g.inactiveCount = 0 then values else g.inactiveComm.broadcast 0 values

def sendBufferToInactive (g : Grid n) (buffers : PerProcess n (Array alpha)) :
    PerProcess n (Array alpha) :=
  if g.inactiveCount = 0 then buffers else g.inactiveComm.broadcastBuffer 0 buffers

/-- A status is zero on the processes that are left out, until they hear of it. -/
def sendStatusToInactive (g : Grid n) (statuses : PerProcess n Int) : PerProcess n Int :=
  g.sendToInactive (Vector.ofFn fun r => if g.active r then statuses.get r else 0)

def release (g : Grid n) : Grid n :=
  { g with released := true }

/-!
# Creation
-/

def ofShape (context : Fin n -> Int) (rows cols : Nat) : Except Failure (Grid n) :=
  if h : 0 < rows ∧ 0 < cols ∧ rows * cols ≤ n then
    .ok ⟨rows, cols, h.1, h.2.1, h.2.2, context, false⟩
  else .error (.configuration (.tooManyPositions rows cols n))

/-- What is asked of a new grid; what is not given is `none`. -/
structure Request where
  gridShape : Option Argument
  matrixShape : Option Argument
  blockSizes : Option Argument

def Request.present? : Option Argument -> Option Argument
  | some .absent => none
  | other => other

def create (context : Fin n -> Int) (defaultBlock : Int) (q : Request) :
    Except Failure (Grid n) :=
  match Request.present? q.gridShape, Request.present? q.matrixShape with
  | some shape, none => do
      let size <- shape.size?
      let p <- size.checkPair .gridShape
      ofShape context p.1 p.2
  | none, some shape => do
      let blocks := (Request.present? q.blockSizes).getD (.whole defaultBlock)
      let shape <- shape.size?
      let blocks <- blocks.size?
      let p <- gridShapeFor shape blocks (.whole n)
      ofShape context p.1 p.2
  | _, _ => .error (.configuration .shapeChoice)

/-- The first process reports the processes that a new grid leaves out. -/
def creationLog (g : Grid n) (r : Fin n) : List Event :=
  if r.val = 0 ∧ 0 < g.inactiveCount then
    [.idle g.rows g.cols g.inactiveCount n]
  else []

end Grid
end BlockCyclic
