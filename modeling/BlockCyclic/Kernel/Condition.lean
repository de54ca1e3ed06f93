import BlockCyclic.Dense
import BlockCyclic.Grid
import BlockCyclic.Kernel.Factor

/-!
# Distributed norms and condition estimate

A norm is added up where the entries are. The condition estimate takes such a norm, and the
factor as a whole.
-/

namespace BlockCyclic

/-!
# Norms

No process holds a whole row or a whole column. Partial sums are first added up over
the processes that share a column, or a row, and the greatest sum is then taken over
the processes across. The sum of squares is added up over the whole grid.
-/

structure NormArithmetic (alpha rho : Type) where
  zero : rho
  magnitude : alpha -> rho
  add : rho -> rho -> rho
  square : rho -> rho
  larger : rho -> rho -> rho
  root : rho -> rho

namespace NormArithmetic

variable {alpha rho : Type}

def sum (a : NormArithmetic alpha rho) (xs : List rho) : rho :=
  xs.foldl a.add a.zero

/-- The greatest entry of a list; zero if there is none. -/
def greatest (a : NormArithmetic alpha rho) : List rho -> rho
  | [] => a.zero
  | x :: rest => rest.foldl a.larger x

variable [Zero alpha]

def columnSums (a : NormArithmetic alpha rho) (x : Dense alpha) : Array rho :=
  (Array.range x.cols).map fun j =>
    a.sum ((List.range x.rows).map fun i => a.magnitude (x.get i j))

def rowSums (a : NormArithmetic alpha rho) (x : Dense alpha) : Array rho :=
  (Array.range x.rows).map fun i =>
    a.sum ((List.range x.cols).map fun j => a.magnitude (x.get i j))

def squareSum (a : NormArithmetic alpha rho) (x : Dense alpha) : rho :=
  a.sum (x.toLists.flatten.map fun v => a.square (a.magnitude v))

def serial (a : NormArithmetic alpha rho) (kind : NormKind) (x : Dense alpha) : rho :=
  match kind with
  | .columnSum => a.greatest (a.columnSums x).toList
  | .rowSum => a.greatest (a.rowSums x).toList
  | .frobenius => a.root (a.squareSum x)

variable {n : Nat}

/-- The greatest of the sums of all groups, over the groups across. -/
def greatestSum (a : NormArithmetic alpha rho) (along across : Communicator n)
    (partialSums : PerProcess n (Array rho)) : PerProcess n (Option rho) :=
  let sums := along.allreduceBuffer a.add partialSums
  across.allreduce a.larger (sums.map fun s => a.greatest ((s.getD #[]).toList))

def distributed (a : NormArithmetic alpha rho) (kind : NormKind) (g : Grid n)
    (blocks : PerProcess n (Dense alpha)) : PerProcess n (Option rho) :=
  match kind with
  | .columnSum => a.greatestSum g.colComm g.rowComm (blocks.map a.columnSums)
  | .rowSum => a.greatestSum g.rowComm g.colComm (blocks.map a.rowSums)
  | .frobenius =>
      (g.gridComm.allreduce a.add (blocks.map a.squareSum)).map fun s => s.map a.root

end NormArithmetic

/-!
# Condition estimate

The reciprocal condition number is estimated from a triangular factor and the norm of
the matrix before its factorization. The serial estimate reads an upper factor, so
that a lower one is transposed first.
-/

variable {n : Nat} {alpha rho : Type} [Zero alpha] [Zero rho] [Measure rho]

structure ConditionArgs (alpha rho : Type) where
  uplo : String
  operand : Operand alpha
  norm : rho
  work : Int
  iwork : Int

structure ConditionResult (rho : Type) where
  /-- The estimate and the status. -/
  outcome : Option (rho × Int)
  log : List Event

namespace Kernel

def ceilDiv (x y : Int) : Int :=
  -((-x).fdiv y)

def conditionWorkspace (g : Grid n) (r : Fin n) (d : Descriptor) : Int × Int :=
  let rowAxis : Axis := ⟨d.mb, g.rows, d.rsrc⟩
  let colAxis : Axis := ⟨d.nb, g.cols, d.csrc⟩
  let locr := rowAxis.extent d.n (g.coords r).1
  let locc := colAxis.extent d.n (g.coords r).2
  let down := d.nb * max 1 (ceilDiv ((g.rows : Int) - 1) g.cols)
  let across := locc + d.nb * max 1 (ceilDiv ((g.cols : Int) - 1) g.rows)
  (2 * locr + 2 * locc + max 2 (max down across), max 1 locr)

end Kernel

namespace ConditionArgs

def check (g : Grid n) (p : Precision) (r : Fin n) (a : ConditionArgs alpha rho) : Int :=
  match Triangle.ofLetter? a.uplo with
  | none => -1
  | some _ =>
      let status := g.checkOperand p r a.operand 2 3
      if status != 0 then status
      else if a.operand.descriptor.m != a.operand.descriptor.n then -3
      else if Measure.isNaN a.norm || Measure.isNegative a.norm then -4
      else
        let needed := Kernel.conditionWorkspace g r a.operand.descriptor
        if a.work < needed.1 then -5
        else if a.iwork < needed.2 then -6
        else 0

def upperFactor (a : ConditionArgs alpha rho) (x : Dense alpha) : Dense alpha :=
  if a.uplo == "L" then x.transpose else x

end ConditionArgs

/-- Estimate of the reciprocal condition number; zero where arguments are refused. -/
def Kernel.condition (k : SerialKernels alpha rho) (g : Grid n) (p : Precision)
    (args : PerProcess n (ConditionArgs alpha rho)) : PerProcess n (ConditionResult rho) :=
  let agreed := g.agree (Vector.ofFn fun r => (args.get r).check g p r)
  if Grid.cleared agreed then
    let gathered := g.gatherOperands (args.map ConditionArgs.operand)
    let solved : PerProcess n (rho × Int) := Vector.ofFn fun r =>
      match gathered.get r with
      | some x => k.condition p ((args.get r).upperFactor x) (args.get r).norm
      | none => (0, 0)
    let shared := g.shareFromRoot solved
    Vector.ofFn fun r =>
      let outcome := shared.get r
      if g.active r then
        ⟨some outcome, [.kernelEnd "pocon" (args.get r).operand.descriptor.n outcome.2]⟩
      else ⟨none, []⟩
  else
    Vector.ofFn fun r => ⟨(agreed.get r).map fun s => (0, s), []⟩

end BlockCyclic
