import BlockCyclic.Matrix.Load
import BlockCyclic.Settings

/-!
# Creating distributed matrices

What is asked of a new matrix is checked in a fixed order: its shape, its blocks, its
element type, its property, and last its backend.
-/

namespace BlockCyclic

/-- What is asked of a new matrix besides its shape; what is not given is absent. -/
structure MatrixRequest where
  blockSizes : Argument
  elementType : Argument
  property : PropertyChoice
  backend : Argument

structure MatrixPlan (n : Nat) where
  layout : Layout n
  property : Property
  backend : Backend

structure Created (n : Nat) (alpha : Type) where
  matrix : DistributedMatrix n alpha
  backend : Backend

def MatrixPlan.create {n : Nat} {alpha : Type} [Zero alpha] (p : MatrixPlan n) : Created n alpha :=
  ⟨.blank p.layout p.property, p.backend⟩

namespace MatrixRequest

variable {n : Nat} {delta alpha rho : Type}

def orElse (a fallback : Argument) : Argument :=
  match a with
  | .absent => fallback
  | given => given

def checkShape (shape : Argument) : Except Failure (Nat × Nat) := do
  let size <- shape.size?
  match size.positivePair? with
  | some p => return p
  | none => .error (.value (.globalShape size.text))

def checkBlocks (settings : Settings) (blocks : Argument) : Except Failure (Nat × Nat) := do
  let size <- (orElse blocks (.whole settings.blockSize)).size?
  match size.positivePair? with
  | some p => return p
  | none => .error (.configuration (.blocks size.text))

def checkPrecision (elementType : Argument) : Except Failure Precision := do
  let t <- ElementType.ofArgument elementType
  match t.precision? with
  | some p => return p
  | none => .error (.value (.precision t.name))

def isSquare : Argument -> Bool
  | .whole _ | .truth _ => true
  | _ => false

/-- The property of a new matrix; one that is given by a single number is symmetric. -/
def initialProperty (shape : Argument) (choice : PropertyChoice) : PropertyChoice :=
  match choice with
  | .unspecified => .given (if isSquare shape then .symmetric else .general)
  | other => other

def layout (grid : Grid n) (shape blocks : Nat × Nat) (precision : Precision) :
    Except Failure (Layout n) :=
  if h : 0 < shape.1 ∧ 0 < shape.2 ∧ 0 < blocks.1 ∧ 0 < blocks.2 then
    .ok
      { grid := grid
        rows := shape.1
        cols := shape.2
        rowBlock := blocks.1
        colBlock := blocks.2
        precision := precision
        rows_pos := h.1
        cols_pos := h.2.1
        rowBlock_pos := h.2.2.1
        colBlock_pos := h.2.2.2 }
  else .error (.value .unsuitable)

/-- The checks of a request before its backend is looked for, in their order. -/
def outline (q : MatrixRequest) (settings : Settings) (grid : Grid n) (shape : Argument) :
    Except Failure (Layout n × Property) := do
  let extents <- checkShape shape
  let blocks <- checkBlocks settings q.blockSizes
  let precision <- checkPrecision q.elementType
  let l <- layout grid extents blocks precision
  let property <- l.demandProperty (initialProperty shape q.property)
  return (l, property)

def chosenBackend (q : MatrixRequest) (settings : Settings) : Except Failure Backend :=
  Backend.named (orElse q.backend (.text settings.backend))

def plan (q : MatrixRequest) (settings : Settings) (grid : Grid n) (shape : Argument) :
    Except Failure (MatrixPlan n) := do
  let (l, property) <- q.outline settings grid shape
  return ⟨l, property, <- q.chosenBackend settings⟩

def create [Zero alpha] (q : MatrixRequest) (settings : Settings) (grid : Grid n)
    (shape : Argument) : Except Failure (Created n alpha) :=
  (q.plan settings grid shape).map MatrixPlan.create

/-- The element type of a matrix made from a sheet, where none is asked for. -/
def elementTypeFor (q : MatrixRequest) (source : ElementType) : Argument :=
  match q.elementType with
  | .absent =>
      match source.precision? with
      | some p => .text p.name
      | none => .absent
  | given => given

/-- The matrix that is made of a sheet on the first process, before its content is loaded. -/
def createFor [Zero alpha] (q : MatrixRequest) (settings : Settings) (grid : Grid n)
    (x : Option (Sheet delta)) : Except Failure (Created n alpha) :=
  let dims := (x.map Sheet.dims).getD []
  match dims with
  | [rows, cols] =>
      let source := (x.map Sheet.elementType).getD (.ofPrecision .double)
      let typed := { q with elementType := q.elementTypeFor source }
      typed.create settings grid (.list [.whole rows, .whole cols])
  | _ => .error (.value (.notTwoDimensional dims))

end MatrixRequest
end BlockCyclic
