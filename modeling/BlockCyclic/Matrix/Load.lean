import BlockCyclic.Matrix

/-!
# Loading and copying content

Content comes from a sheet on the first process, which is scattered over the grid, or
from a function of row and column indices, which every process evaluates on the
indices it holds. Either way the matrix ends in the same state, and its property is
the one given with the content or the one it had before any factorization.
-/

namespace BlockCyclic

variable {n : Nat} {delta alpha rho : Type}

def Part.load (p : Part alpha) (block : Dense alpha) (property : Option Property) :
    Part alpha :=
  let fresh := property.getD p.freshProperty
  { block := block, state := .matrix, property := fresh, freshProperty := fresh }

namespace DistributedMatrix

def loaded (a : DistributedMatrix n alpha) (r : Fin n) (block : Dense alpha)
    (property : Option Property) (log : List Event) : Reply alpha Unit :=
  let p := a.part r
  ⟨p.load block property, .ok (), log ++ [a.layout.transition p.state .matrix]⟩

/-!
# From a sheet
-/

def provides (a : DistributedMatrix n alpha) (x : Option (Sheet delta)) : Bool :=
  match x with
  | some s => s.isReal a.layout.rows a.layout.cols
  | none => false

def conversionLog (a : DistributedMatrix n alpha) (x : Option (Sheet delta)) : List Event :=
  match x with
  | some s =>
      if s.elementType.safelyEnters a.layout.precision then []
      else [.lossyCast s.elementType.name a.layout.precision]
  | none => []

def verdicts (a : DistributedMatrix n alpha) (x : PerProcess n (Option (Sheet delta))) :
    PerProcess n Bool :=
  Communicator.world.broadcast 0 (x.map a.provides)

/-- The content of a sheet on the first process. -/
def assign [Zero alpha] (numerics : Numerics delta alpha rho) (a : DistributedMatrix n alpha)
    (x : PerProcess n (Option (Sheet delta))) (choice : PropertyChoice) : Replies n alpha Unit :=
  let l := a.layout
  let valid := a.verdicts x
  let whole := x.map fun s => s.map fun s => s.toDense (numerics.enter l.precision) l.rows l.cols
  let spread := l.grid.gridComm.scatter l.grid.shape 0 (fun _ => l.blockSizes) whole a.blocks
  Vector.ofFn fun r =>
    match l.propertyFrom choice with
    | .error failure => .refuse (a.part r) failure
    | .ok property =>
        if valid.get r then
          a.loaded r (spread.get r) property (if r.val = 0 then a.conversionLog (x.get r) else [])
        else .refuse (a.part r) (.value (.wrongMatrix l.rows l.cols))

/-!
# From a function of the indices
-/

def evaluated [Zero alpha] (numerics : Numerics delta alpha rho) (a : DistributedMatrix n alpha)
    (f : Region -> Except Failure (Sheet delta)) (r : Fin n) : Except Failure (Dense alpha) :=
  let l := a.layout
  if l.grid.active r then do
    let values <- f (l.indices r)
    match values.stretch? (numerics.enter l.precision) (l.localShape r).1 (l.localShape r).2 with
    | some block => .ok block
    | none => .error (.value .unsuitable)
  else .ok (a.part r).block

def fillOn [Zero alpha] (numerics : Numerics delta alpha rho) (a : DistributedMatrix n alpha)
    (f : Region -> Except Failure (Sheet delta)) (choice : PropertyChoice) (r : Fin n) :
    Reply alpha Unit :=
  match a.layout.propertyFrom choice with
  | .error failure => .refuse (a.part r) failure
  | .ok property =>
      match a.evaluated numerics f r with
      | .error failure => .refuse (a.part r) failure
      | .ok block => a.loaded r block property []

def fill [Zero alpha] (numerics : Numerics delta alpha rho) (a : DistributedMatrix n alpha)
    (f : Region -> Except Failure (Sheet delta)) (choice : PropertyChoice) :
    Replies n alpha Unit :=
  Vector.ofFn (a.fillOn numerics f choice)

/-!
# Back to one process
-/

def gathered [Zero alpha] (a : DistributedMatrix n alpha) :
    PerProcess n (Option (Dense alpha)) :=
  a.layout.grid.gridComm.gather 0 (fun _ => a.layout.distribution) a.blocks

def copyTo [Zero alpha] (a : DistributedMatrix n alpha) (everywhere : Bool) :
    Replies n alpha (Option (Dense alpha)) :=
  let own := a.gathered
  let copies := if everywhere then Communicator.world.broadcast 0 own else own
  Vector.ofFn fun r =>
    let p := a.part r
    .guarded p (p.requireState .copy) (.answer p (copies.get r))

end DistributedMatrix
end BlockCyclic
