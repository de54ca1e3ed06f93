import BlockCyclic.Kernel.Factor

/-!
# Distributed symmetric eigenproblem

Eigenvalues go to a buffer on every process, eigenvectors are scattered over an
operand of their own. Only the first process of the grid needs workspace.
-/

namespace BlockCyclic

variable {n : Nat} {alpha rho : Type} [Zero alpha]

structure EigenArgs (alpha : Type) where
  jobz : String
  uplo : String
  operand : Operand alpha
  values : Array alpha
  vectors : Operand alpha
  work : Int
  iwork : Int

structure EigenResult (alpha : Type) where
  status : Option Int
  values : Array alpha
  vectors : Dense alpha
  log : List Event

namespace Kernel

def isRoot (g : Grid n) (r : Fin n) : Bool :=
  g.gridComm.rank? r == some 0

/-- Workspace sizes that the serial query tells; a fraction is rounded up. -/
def rootWorkspace (query : WorkspaceQuery) (p : Precision) (jobz uplo : String) (order : Int) :
    Int × Int :=
  let told := query p (jobz == "V") (uplo == "L") order
  (told.1.ceil, told.2)

def eigenWorkspace (query : WorkspaceQuery) (g : Grid n) (p : Precision) (r : Fin n)
    (jobz uplo : String) (d : Descriptor) : Int × Int :=
  if isRoot g r then rootWorkspace query p jobz uplo d.n else (1, 1)

end Kernel

namespace EigenArgs

def wantsVectors (a : EigenArgs alpha) : Bool :=
  a.jobz == "V"

/-- Status of the arguments before the workspace, which is looked at last. -/
def checkOperands (g : Grid n) (p : Precision) (r : Fin n) (a : EigenArgs alpha) : Int :=
  if a.jobz != "N" && a.jobz != "V" then -1
  else if (Triangle.ofLetter? a.uplo).isNone then -2
  else
    let status := g.checkOperand p r a.operand 3 4
    if status != 0 then status
    else if a.operand.descriptor.m != a.operand.descriptor.n then -4
    else if (a.values.size : Int) < a.operand.descriptor.n then -5
    else if a.wantsVectors then g.checkOperand p r a.vectors 6 7
    else 0

def neededWorkspace (query : WorkspaceQuery) (g : Grid n) (p : Precision) (r : Fin n)
    (a : EigenArgs alpha) : Int × Int :=
  Kernel.eigenWorkspace query g p r a.jobz a.uplo a.operand.descriptor

def check (query : WorkspaceQuery) (g : Grid n) (p : Precision) (r : Fin n)
    (a : EigenArgs alpha) : Int :=
  let status := a.checkOperands g p r
  if status != 0 then status
  else
    let needed := a.neededWorkspace query g p r
    if a.work < needed.1 then -8
    else if a.iwork < needed.2 then -9
    else 0

def triangle (a : EigenArgs alpha) : Triangle :=
  (Triangle.ofLetter? a.uplo).getD .lower

end EigenArgs

/-- A buffer with the eigenvalues that were found, if any were, at its front. -/
def Spectrum.fill (buffer : Array alpha) : Option (Spectrum alpha) -> Array alpha
  | some s => if s.status = 0 then Communicator.overwrite buffer s.values else buffer
  | none => buffer

namespace Kernel

def solveEigen (k : SerialKernels alpha rho) (g : Grid n) (p : Precision)
    (args : PerProcess n (EigenArgs alpha)) : PerProcess n (Option (Spectrum alpha)) :=
  let gathered := g.gatherOperands (args.map EigenArgs.operand)
  Vector.ofFn fun r =>
    (gathered.get r).map (k.eigen p (args.get r).wantsVectors (args.get r).triangle)

def eigen (k : SerialKernels alpha rho) (g : Grid n) (p : Precision)
    (args : PerProcess n (EigenArgs alpha)) : PerProcess n (EigenResult alpha) :=
  let agreed := g.agree (Vector.ofFn fun r => (args.get r).check k.eigenWorkspace g p r)
  if Grid.cleared agreed then
    let solved := solveEigen k g p args
    let shared := g.shareFromRoot (solved.map fun s => (s.map Spectrum.status).getD 0)
    let values := g.gridComm.broadcastBuffer 0 <|
      Vector.ofFn fun r => Spectrum.fill (args.get r).values (solved.get r)
    let spread := g.scatterOver (solved.map fun s => s.map Spectrum.vectors)
      (args.map EigenArgs.vectors)
    Vector.ofFn fun r =>
      let a := args.get r
      let status := shared.get r
      if g.active r then
        { status := some status
          values := if status = 0 then values.get r else a.values
          vectors := if status = 0 && a.wantsVectors then spread.get r else a.vectors.block
          log := [.eigenEnd a.jobz a.operand.descriptor.n status] }
      else ⟨none, a.values, a.vectors.block, []⟩
  else
    Vector.ofFn fun r =>
      let a := args.get r
      ⟨agreed.get r, a.values, a.vectors.block, []⟩

end Kernel
end BlockCyclic
