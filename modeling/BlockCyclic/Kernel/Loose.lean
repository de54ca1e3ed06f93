import BlockCyclic.Descriptor.Loose
import BlockCyclic.Kernel.Condition
import BlockCyclic.Kernel.Eigen
import BlockCyclic.Kernel.Factor
import BlockCyclic.Words

/-!
# Loosely described operands

A descriptor that is passed to a kernel may hold values of any kind. A field is looked
at only once the checks get to it: what cannot be computed with is a failure then and no
status. Numbers with a fraction pass the checks if they lead to the right extents, but
a matrix cannot be gathered or scattered with them.
-/

namespace BlockCyclic

variable {n : Nat} {alpha : Type}

namespace LooseDescriptor

/-!
# Descriptors of integers
-/

/-- The integer part of a value; what is no finite number counts as zero. -/
def integerOf (a : Argument) : Int :=
  match a.plainNumber? with
  | some (.int i) => i
  | some (.real x) => ((Exact.ofFloat x).truncate?).getD 0
  | none => 0

def truncated (d : LooseDescriptor) : Descriptor :=
  d.map integerOf

/-- Whether integers stand wherever the checks may look, and no divisor is zero. -/
def isPlain (d : LooseDescriptor) : Bool :=
  [d.context, d.m, d.n, d.mb, d.nb, d.rsrc, d.csrc].all (fun a => a.integer?.isSome)
    && (integerOf d.mb != 0 && integerOf d.nb != 0)

/-- Whether matrices can be moved with the descriptor, whatever the checks say. -/
def movesFreely (d : LooseDescriptor) (g : Grid n) : Bool :=
  d.isPlain && (d.truncated.distribution g.shape).regionsFit (g.rows, g.cols)

/-!
# Checks
-/

def isAccepted (d : LooseDescriptor) (g : Grid n) (r : Fin n) : Bool :=
  d.context.equals (.whole (g.contextOf r))
    && (d.rsrc.equals (.whole 0) && d.csrc.equals (.whole 0))

def localExtent (d : LooseDescriptor) (g : Grid n) (r : Fin n) :
    Except Failure (Number × Number) := do
  let rows <- (<- d.rowAxis g.rows).extent (<- d.m.plainNumber) (.int (g.coords r).1)
  let cols <- (<- d.colAxis g.cols).extent (<- d.n.plainNumber) (.int (g.coords r).2)
  return (rows, cols)

/-!
# Moving a matrix
-/

/-- Refuses regions of a matrix that cannot be computed as tables. -/
def checkRegions (d : LooseDescriptor) (g : Grid n) (rows cols : Number) :
    Except Failure Unit := do
  let rowAxis <- d.rowAxis g.rows
  let colAxis <- d.colAxis g.cols
  (List.range g.activeCount).forM fun k : Nat => do
    let prow : Number := .int (k / g.cols : Nat)
    let pcol : Number := .int (k % g.cols : Nat)
    let localRows <- rowAxis.extent rows prow
    let localCols <- colAxis.extent cols pcol
    let _ <- rowAxis.indicesOf localRows prow
    let _ <- colAxis.indicesOf localCols pcol

/-- Refuses lengths of blocks that lead to indices with a fraction. -/
def checkIndices (d : LooseDescriptor) : Except Failure Unit :=
  if d.mb.integer?.isSome && d.nb.integer?.isSome then .ok () else .error (.index .unsuitable)

def checkGather (d : LooseDescriptor) (g : Grid n) : Except Failure Unit := do
  d.checkRegions g (<- d.m.plainNumber) (<- d.n.plainNumber)
  if d.m.integer?.isSome && d.n.integer?.isSome then d.checkIndices else .error .unusable

def checkScatter (d : LooseDescriptor) (g : Grid n) (rows cols : Int) : Except Failure Unit := do
  d.checkRegions g (.int rows) (.int cols)
  d.checkIndices

/-!
# Workspace
-/

/-- The order of a matrix as a word of 32 bits; of a list, its first item counts. -/
def orderWord : Argument -> Except Failure Int
  | .list [] => .error (.index .unsuitable)
  | .list (a :: _) => orderWord a
  | a => a.wordWithin (NumberFormat.signedRange 32)

def eigenWorkspace (d : LooseDescriptor) (query : WorkspaceQuery) (g : Grid n) (p : Precision)
    (r : Fin n) (jobz uplo : String) : Except Failure (Int × Int) :=
  if Kernel.isRoot g r then (orderWord d.n).map (Kernel.rootWorkspace query p jobz uplo)
  else .ok (1, 1)

/-- The greater of two numbers, the first one of equals. -/
def greater (x y : Number) : Number :=
  if x.below y then y else x

def conditionWorkspace (d : LooseDescriptor) (g : Grid n) (r : Fin n) :
    Except Failure (Number × Number) := do
  let order := d.n.plainNumber
  let locr <- (<- d.rowAxis g.rows).extent (<- order) (.int (g.coords r).1)
  let locc <- (<- d.colAxis g.cols).extent (<- order) (.int (g.coords r).2)
  let nb <- d.nb.plainNumber
  let rounds (p q : Nat) : Number := .int (max 1 (Kernel.ceilDiv ((p : Int) - 1) q))
  let plus := Extent.single.add
  let times := Extent.single.mul
  let down <- times nb (rounds g.rows g.cols)
  let across <- plus locc (<- times nb (rounds g.cols g.rows))
  let twice <- plus (<- times (.int 2) locr) (<- times (.int 2) locc)
  let work <- plus twice (greater (.int 2) (greater down across))
  return (work, greater (.int 1) locr)

end LooseDescriptor

/-!
# Operands
-/

structure LooseOperand (alpha : Type) where
  elementType : ElementType
  block : Dense alpha
  descriptor : LooseDescriptor

namespace LooseOperand

def truncated (o : LooseOperand alpha) : Operand alpha :=
  ⟨o.elementType, o.block, o.descriptor.truncated⟩

def fits (o : LooseOperand alpha) (g : Grid n) (p : Precision) (r : Fin n) :
    Except Failure Bool := do
  let e <- o.descriptor.localExtent g r
  return (Number.int o.block.rows).same e.1 && (Number.int o.block.cols).same e.2
    && o.elementType == .ofPrecision p

def check (o : LooseOperand alpha) (g : Grid n) (p : Precision) (r : Fin n)
    (blockPosition descriptorPosition : Int) : Except Failure Int := do
  if !o.descriptor.isAccepted g r then return -descriptorPosition
  else if !(<- o.fits g p r) then return -blockPosition
  else return 0

def checkSquare (o : LooseOperand alpha) (g : Grid n) (p : Precision) (r : Fin n)
    (blockPosition descriptorPosition : Int) : Except Failure Int := do
  let status <- o.check g p r blockPosition descriptorPosition
  if status = 0 && !o.descriptor.m.equals o.descriptor.n then return -descriptorPosition
  else return status

def checkTranspose (source target : LooseOperand alpha) (g : Grid n) (p : Precision)
    (r : Fin n) : Except Failure Int := do
  let first <- source.check g p r 1 2
  let status <- if first != 0 then pure first else target.check g p r 3 4
  let turned := target.descriptor.m.equals source.descriptor.n
    && target.descriptor.n.equals source.descriptor.m
  if status = 0 && !turned then return -4 else return status

end LooseOperand

/-!
# Arguments
-/

def LooseOperand.checkTriangle (o : LooseOperand alpha) (uplo : String) (g : Grid n)
    (p : Precision) (r : Fin n) : Except Failure Int :=
  if (Triangle.ofLetter? uplo).isNone then .ok (-1) else o.checkSquare g p r 2 3

structure LooseEigenArgs (alpha : Type) where
  jobz : String
  uplo : String
  operand : LooseOperand alpha
  values : Array alpha
  vectors : LooseOperand alpha
  work : Int
  iwork : Int

namespace LooseEigenArgs

def truncated (a : LooseEigenArgs alpha) : EigenArgs alpha :=
  ⟨a.jobz, a.uplo, a.operand.truncated, a.values, a.vectors.truncated, a.work, a.iwork⟩

def checkOperands (a : LooseEigenArgs alpha) (g : Grid n) (p : Precision) (r : Fin n) :
    Except Failure Int := do
  if a.jobz != "N" && a.jobz != "V" then return -1
  else if (Triangle.ofLetter? a.uplo).isNone then return -2
  else
    let status <- a.operand.checkSquare g p r 3 4
    if status != 0 then return status
    else if (Number.int a.values.size).below (<- a.operand.descriptor.n.plainNumber) then
      return -5
    else if a.jobz == "V" then a.vectors.check g p r 6 7
    else return 0

def check (a : LooseEigenArgs alpha) (query : WorkspaceQuery) (g : Grid n) (p : Precision)
    (r : Fin n) : Except Failure Int := do
  let status <- a.checkOperands g p r
  if status != 0 then return status
  else
    let needed <- a.operand.descriptor.eigenWorkspace query g p r a.jobz a.uplo
    if a.work < needed.1 then return -8
    else if a.iwork < needed.2 then return -9
    else return 0

def checkMoves (a : LooseEigenArgs alpha) (g : Grid n) : Except Failure Unit := do
  a.operand.descriptor.checkGather g
  let order := LooseDescriptor.integerOf a.operand.descriptor.n
  if a.jobz == "V" then a.vectors.descriptor.checkScatter g order order

end LooseEigenArgs

structure LooseConditionArgs (alpha : Type) where
  uplo : String
  operand : LooseOperand alpha
  norm : Argument
  work : Int
  iwork : Int

namespace LooseConditionArgs

def truncated (a : LooseConditionArgs alpha) : ConditionArgs alpha Float :=
  ⟨a.uplo, a.operand.truncated, (a.norm.number?.getD 0).toDouble, a.work, a.iwork⟩

def checkNorm (norm : Argument) : Except Failure Int := do
  let x <- norm.number
  if (Number.int 0).below x || (Number.int 0).same x then return 0 else return -4

def check (a : LooseConditionArgs alpha) (g : Grid n) (p : Precision) (r : Fin n) :
    Except Failure Int := do
  let first <- a.operand.checkTriangle a.uplo g p r
  let status <- if first != 0 then pure first else checkNorm a.norm
  if status != 0 then return status
  else
    let needed <- a.operand.descriptor.conditionWorkspace g r
    if (Number.int a.work).below needed.1 then return -5
    else if (Number.int a.iwork).below needed.2 then return -6
    else return 0

def checkMoves (a : LooseConditionArgs alpha) (g : Grid n) : Except Failure Unit := do
  a.operand.descriptor.checkGather g
  let _ <- (<- a.norm.number).double

end LooseConditionArgs
end BlockCyclic
