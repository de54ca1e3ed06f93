import BlockCyclic.Descriptor
import BlockCyclic.Grid
import BlockCyclic.Number.ElementType
import BlockCyclic.Serial
import BlockCyclic.Transfer

/-!
# Distributed factorization, inversion and transpose

The processes agree on the arguments, the first one gathers the operand and runs the
serial kernel, its status is shared, and only a result of status zero is scattered
over the operand.
-/

namespace BlockCyclic

/-!
# Operands

Every active process passes its local block with a descriptor. What is wrong with
the arguments of one process is a negative status, minus the position of the first
offending argument; the processes of a grid agree on the least of their statuses.
-/

structure Operand (alpha : Type) where
  elementType : ElementType
  block : Dense alpha
  descriptor : Descriptor

namespace Grid

variable {n : Nat} {alpha : Type}

def localExtent (g : Grid n) (d : Descriptor) (r : Fin n) : Int × Int :=
  (d.distribution g.shape).localShape (g.coords r).1 (g.coords r).2

def accepts (g : Grid n) (r : Fin n) (d : Descriptor) : Bool :=
  d.context == g.contextOf r && (d.rsrc == 0 && d.csrc == 0)

def blockFits (g : Grid n) (p : Precision) (r : Fin n) (o : Operand alpha) : Bool :=
  let e := g.localExtent o.descriptor r
  (o.block.rows : Int) == e.1 && (o.block.cols : Int) == e.2
    && o.elementType == .ofPrecision p

/--
Status of an operand: first its descriptor is looked at, then its block, which stand
at the given positions among the arguments.
-/
def checkOperand (g : Grid n) (p : Precision) (r : Fin n) (o : Operand alpha)
    (blockPosition descriptorPosition : Int) : Int :=
  if !g.accepts r o.descriptor then -descriptorPosition
  else if !g.blockFits p r o then -blockPosition
  else 0

def agree (g : Grid n) (statuses : PerProcess n Int) : PerProcess n (Option Int) :=
  g.gridComm.allreduce min statuses

def cleared (agreed : PerProcess n (Option Int)) : Bool :=
  agreed.all fun s => s.getD 0 == 0

def gatherOperands [Zero alpha] (g : Grid n) (operands : PerProcess n (Operand alpha)) :
    PerProcess n (Option (Dense alpha)) :=
  g.gridComm.gather 0 (fun r => (operands.get r).descriptor.distribution g.shape)
    (operands.map Operand.block)

def scatterOver [Zero alpha] (g : Grid n) (x : PerProcess n (Option (Dense alpha)))
    (operands : PerProcess n (Operand alpha)) : PerProcess n (Dense alpha) :=
  g.gridComm.scatter g.shape 0 (fun r => (operands.get r).descriptor.blockSizes) x
    (operands.map Operand.block)

def shareFromRoot (g : Grid n) (values : PerProcess n alpha) : PerProcess n alpha :=
  g.gridComm.broadcast 0 values

end Grid

/-!
# Kernels on a triangle
-/

variable {n : Nat} {alpha rho : Type} [Zero alpha]

structure TriangleArgs (alpha : Type) where
  uplo : String
  operand : Operand alpha

/-- What a kernel leaves on a process; there is no status where there is no grid. -/
structure KernelResult (alpha : Type) where
  status : Option Int
  block : Dense alpha
  log : List Event

namespace TriangleArgs

/-- Status of the arguments: the triangle, the operand, and that it is square. -/
def check (g : Grid n) (p : Precision) (r : Fin n) (a : TriangleArgs alpha) : Int :=
  match Triangle.ofLetter? a.uplo with
  | none => -1
  | some _ =>
      let status := g.checkOperand p r a.operand 2 3
      if status = 0 && a.operand.descriptor.m != a.operand.descriptor.n then -3 else status

/-- The triangle; only arguments that have been checked are asked for it. -/
def triangle (a : TriangleArgs alpha) : Triangle :=
  (Triangle.ofLetter? a.uplo).getD .lower

end TriangleArgs

namespace Kernel

/-- The common course of the kernels that replace a triangle of their operand. -/
def onTriangle (routine : String) (serial : Triangle -> Dense alpha -> Factored alpha)
    (g : Grid n) (p : Precision) (args : PerProcess n (TriangleArgs alpha)) :
    PerProcess n (KernelResult alpha) :=
  let agreed := g.agree (Vector.ofFn fun r => (args.get r).check g p r)
  if Grid.cleared agreed then
    let operands := args.map TriangleArgs.operand
    let gathered := g.gatherOperands operands
    let solved : PerProcess n (Option (Factored alpha)) := Vector.ofFn fun r =>
      (gathered.get r).map (serial (args.get r).triangle)
    let shared := g.shareFromRoot (solved.map fun s => (s.map Factored.status).getD 0)
    let spread := g.scatterOver (solved.map fun s => s.map Factored.matrix) operands
    Vector.ofFn fun r =>
      let own := (args.get r).operand
      let status := shared.get r
      if g.active r then
        { status := some status
          block := if status = 0 then spread.get r else own.block
          log := [.kernelEnd routine own.descriptor.n status] }
      else ⟨none, own.block, []⟩
  else
    Vector.ofFn fun r => ⟨agreed.get r, (args.get r).operand.block, []⟩

def factor (k : SerialKernels alpha rho) (g : Grid n) (p : Precision)
    (args : PerProcess n (TriangleArgs alpha)) : PerProcess n (KernelResult alpha) :=
  onTriangle "potrf" (k.factor p) g p args

def invert (k : SerialKernels alpha rho) (g : Grid n) (p : Precision)
    (args : PerProcess n (TriangleArgs alpha)) : PerProcess n (KernelResult alpha) :=
  onTriangle "potri" (k.invert p) g p args

end Kernel

/-!
# Transpose

The operand is gathered as a whole before anything is written, so that the target may
be the operand itself.
-/

structure TransposeArgs (alpha : Type) where
  source : Operand alpha
  target : Operand alpha

namespace TransposeArgs

/-- Status of the arguments: the operand, the target, and the shape of the target. -/
def check (g : Grid n) (p : Precision) (r : Fin n) (a : TransposeArgs alpha) : Int :=
  let first := g.checkOperand p r a.source 1 2
  let status := if first != 0 then first else g.checkOperand p r a.target 3 4
  if status = 0 && a.target.descriptor.shape != (a.source.descriptor.n, a.source.descriptor.m) then
    -4
  else status

end TransposeArgs

def Kernel.transpose (g : Grid n) (p : Precision) (args : PerProcess n (TransposeArgs alpha)) :
    PerProcess n (KernelResult alpha) :=
  let agreed := g.agree (Vector.ofFn fun r => (args.get r).check g p r)
  if Grid.cleared agreed then
    let gathered := g.gatherOperands (args.map TransposeArgs.source)
    let spread := g.scatterOver (gathered.map fun x => x.map Dense.transpose)
      (args.map TransposeArgs.target)
    Vector.ofFn fun r =>
      ⟨if g.active r then some 0 else none, spread.get r, []⟩
  else
    Vector.ofFn fun r => ⟨agreed.get r, (args.get r).target.block, []⟩

end BlockCyclic
