import BlockCyclic.Matrix

/-!
# Factorizations, eigenvalues and norms

A kernel works on one triangle of the content. What lies in the other one is settled
here: the factor has zeros there, and the inverse is completed by its own transpose.
The processes that are left out hear of the status of the kernel from the first one.
-/

namespace BlockCyclic

variable {n : Nat} {delta alpha rho : Type}

namespace Layout

def clearAbove [Zero alpha] (l : Layout n) (r : Fin n) (block : Dense alpha) : Dense alpha :=
  if l.grid.active r then block.mapPlaces fun i j x => if l.aboveDiagonal r i j then 0 else x
  else block

/-- A local block whose entries strictly above the diagonal come from another block. -/
def mergeAbove [Zero alpha] (l : Layout n) (r : Fin n) (block other : Dense alpha) :
    Dense alpha :=
  if l.grid.active r then
    block.mapPlaces fun i j x => if l.aboveDiagonal r i j then other.get i j else x
  else block

def shareStatuses (l : Layout n) (statuses : PerProcess n (Option Int)) : PerProcess n Int :=
  l.grid.sendStatusToInactive (statuses.map fun s => s.getD 0)

end Layout

namespace DistributedMatrix

variable [Zero alpha]

def lowerArgs (a : DistributedMatrix n alpha) (blocks : PerProcess n (Dense alpha)) :
    PerProcess n (TriangleArgs alpha) :=
  Vector.ofFn fun r =>
    ⟨Triangle.lower.letter, ⟨.ofPrecision a.layout.precision, blocks.get r, a.layout.descriptor r⟩⟩

def failed (a : DistributedMatrix n alpha) {beta : Type} (r : Fin n) (block : Dense alpha)
    (routine : String) (status : Int) (log : List Event) : Reply alpha beta :=
  ⟨{ a.part r with block := block }, .error (.numerical ⟨routine, status⟩), log⟩

def cholesky (numerics : Numerics delta alpha rho) (a : DistributedMatrix n alpha) :
    Replies n alpha Unit :=
  let l := a.layout
  let results := Kernel.factor numerics.serial l.grid l.precision (a.lowerArgs a.blocks)
  let statuses := l.shareStatuses (results.map KernelResult.status)
  Vector.ofFn fun r =>
    let p := a.part r
    let result := results.get r
    let status := statuses.get r
    .guarded p (p.requireSymmetric .cholesky)
      (if status ≠ 0 then a.failed r result.block "potrf" status result.log
      else
        { part :=
            { p with
              block := l.clearAbove r result.block
              state := .cholesky
              property := .lowerTriangular }
          result := .ok ()
          log := result.log ++ [l.transition p.state .cholesky] })

def transposeArgs (a : DistributedMatrix n alpha) (blocks : PerProcess n (Dense alpha)) :
    PerProcess n (TransposeArgs alpha) :=
  Vector.ofFn fun r =>
    let d := a.layout.descriptor r
    let block := blocks.get r
    let cleared := Dense.zeros block.rows block.cols
    ⟨⟨.ofPrecision a.layout.precision, block, d⟩, ⟨.ofPrecision a.layout.precision, cleared, d⟩⟩

def invert (numerics : Numerics delta alpha rho) (a : DistributedMatrix n alpha) :
    Replies n alpha Unit :=
  let l := a.layout
  let inverted := Kernel.invert numerics.serial l.grid l.precision (a.lowerArgs a.blocks)
  let statuses := l.shareStatuses (inverted.map KernelResult.status)
  let blocks := inverted.map KernelResult.block
  let turned := Kernel.transpose l.grid l.precision (a.transposeArgs blocks)
  let turnStatuses := l.shareStatuses (turned.map KernelResult.status)
  Vector.ofFn fun r =>
    let p := a.part r
    let block := blocks.get r
    let log := (inverted.get r).log
    let turn := turned.get r
    let merged := if turn.status = some 0 then l.mergeAbove r block turn.block else block
    .guarded p (p.requireState .inversion)
      (if statuses.get r ≠ 0 then a.failed r block "potri" (statuses.get r) log
      else if turnStatuses.get r ≠ 0 then a.failed r merged "tran" (turnStatuses.get r) log
      else
        { part := { p with block := merged, state := .inverse, property := .symmetric }
          result := .ok ()
          log := log ++ [l.transition p.state .inverse] })

/-!
# Operations that end in values

Every process ends with the values. The eigenproblem uses up the content
of the matrix; norms and the condition estimate leave it as it is.
-/

/-- What a process passes to the eigensolver, with just the workspace that is needed. -/
def eigenArgs (query : WorkspaceQuery) (a : DistributedMatrix n alpha) (vectors : Bool) :
    PerProcess n (EigenArgs alpha) :=
  let l := a.layout
  let jobz := if vectors then "V" else "N"
  let uplo := Triangle.lower.letter
  Vector.ofFn fun r =>
    let d := l.descriptor r
    let needed := Kernel.eigenWorkspace query l.grid l.precision r jobz uplo d
    let target := if vectors then Dense.zeros (l.localShape r).1 (l.localShape r).2
      else Dense.zeros 0 0
    { jobz := jobz
      uplo := uplo
      operand := a.operand r
      values := Array.replicate (min l.rows l.cols) 0
      vectors := ⟨.ofPrecision l.precision, target, d⟩
      work := needed.1
      iwork := needed.2 }

def solvedPart (p : Part alpha) (vectors : Bool) (active : Bool) (block : Dense alpha) :
    Part alpha :=
  if vectors then
    { p with
      block := if active then block else p.block
      state := .eigenvectors
      property := .general }
  else { p with state := .eigenvalues }

/-- The eigenvalues of a symmetric matrix; the content becomes its eigenvectors, if wanted. -/
def eigen (numerics : Numerics delta alpha rho) (a : DistributedMatrix n alpha)
    (vectors : Bool) : Replies n alpha (Array alpha) :=
  let l := a.layout
  let args := a.eigenArgs numerics.serial.eigenWorkspace vectors
  let results := Kernel.eigen numerics.serial l.grid l.precision args
  let statuses := l.shareStatuses (results.map EigenResult.status)
  let values := l.grid.sendBufferToInactive (results.map EigenResult.values)
  Vector.ofFn fun r =>
    let p := a.part r
    let active := l.grid.active r
    let own := args.get r
    let status := statuses.get r
    let result := results.get r
    let log := (if active then [.eigenWorkspace own.work own.iwork] else []) ++ result.log
    .guarded p (p.requireSymmetric .eigen)
      (if status ≠ 0 then a.failed r p.block "syev" status log
      else
        let next := solvedPart p vectors active result.vectors
        { part := next
          result := .ok (values.get r)
          log := log ++ [l.transition p.state next.state] })

/-!
# Condition estimate
-/

def conditionArgs (a : DistributedMatrix n alpha) (norm : PerProcess n rho) :
    PerProcess n (ConditionArgs alpha rho) :=
  Vector.ofFn fun r =>
    let needed := Kernel.conditionWorkspace a.layout.grid r (a.layout.descriptor r)
    { uplo := Triangle.lower.letter
      operand := a.operand r
      norm := norm.get r
      work := needed.1
      iwork := needed.2 }

def condition [Zero rho] [Measure rho] (numerics : Numerics delta alpha rho)
    (a : DistributedMatrix n alpha) (norm : PerProcess n rho) : Replies n alpha rho :=
  let l := a.layout
  let results := Kernel.condition numerics.serial l.grid l.precision (a.conditionArgs norm)
  let shared : PerProcess n (rho × Int) :=
    l.grid.sendToInactive (results.map fun c => c.outcome.getD (0, 0))
  Vector.ofFn fun r =>
    let p := a.part r
    let outcome := shared.get r
    let log := (results.get r).log
    .guarded p (p.requireState .condition)
      (if outcome.2 ≠ 0 then a.failed r p.block "pocon" outcome.2 log
       else ⟨p, .ok outcome.1, log⟩)

/-!
# Norms
-/

def norm (numerics : Numerics delta alpha rho) (a : DistributedMatrix n alpha)
    (kind : NormKind) : Replies n alpha rho :=
  let l := a.layout
  let values := numerics.norms.distributed kind l.grid a.blocks
  let shared := l.grid.sendToInactive (values.map fun v => v.getD numerics.norms.zero)
  Vector.ofFn fun r =>
    let p := a.part r
    .guarded p (p.requireState (.norm kind)) (.answer p (shared.get r))

end DistributedMatrix

end BlockCyclic
