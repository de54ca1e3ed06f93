import BlockCyclic.Kernel.Condition
import BlockCyclic.Kernel.Eigen
import BlockCyclic.Kernel.Factor
import BlockCyclic.Matrix.Layout
import BlockCyclic.Sheet

/-!
# Distributed matrices

Every process keeps its local block together with what the content means. An
operation is called on all processes at once, and gives every process a reply: what
it keeps from then on, the result or a failure, and what it reports meanwhile. A
process that refuses an operation keeps what it has.
-/

namespace BlockCyclic

structure Part (alpha : Type) where
  block : Dense alpha
  state : State
  /-- Structure of the present content. -/
  property : Property
  /-- Structure of content that is loaded anew. -/
  freshProperty : Property

structure DistributedMatrix (n : Nat) (alpha : Type) where
  layout : Layout n
  parts : PerProcess n (Part alpha)

structure Reply (alpha beta : Type) where
  part : Part alpha
  result : Except Failure beta
  log : List Event

abbrev Replies (n : Nat) (alpha beta : Type) := PerProcess n (Reply alpha beta)

/-- How outside numbers enter a matrix, the serial kernels, and the arithmetic of norms. -/
structure Numerics (delta alpha rho : Type) where
  enter : Precision -> delta -> alpha
  serial : SerialKernels alpha rho
  norms : NormArithmetic alpha rho

/-!
# Replies
-/

namespace Reply

variable {alpha beta : Type}

def refuse (part : Part alpha) (failure : Failure) : Reply alpha beta :=
  ⟨part, .error failure, []⟩

def answer (part : Part alpha) (result : beta) : Reply alpha beta :=
  ⟨part, .ok result, []⟩

def guarded (part : Part alpha) (refusal : Except Failure Unit) (reply : Reply alpha beta) :
    Reply alpha beta :=
  match refusal with
  | .ok _ => reply
  | .error failure => refuse part failure

end Reply

/-!
# Preconditions
-/

namespace Part

variable {alpha : Type}

def requireState (p : Part alpha) (operation : Operation) : Except Failure Unit :=
  if operation.states.contains p.state then .ok ()
  else .error (.precondition (.state operation p.state))

def requireProperty (p : Part alpha) (operation : Operation) (required : Property) :
    Except Failure Unit :=
  if p.property = required then .ok ()
  else .error (.precondition (.property operation required p.property))

def requireSymmetric (p : Part alpha) (operation : Operation) : Except Failure Unit := do
  p.requireState operation
  p.requireProperty operation .symmetric

end Part

/-- A property that a caller gives, or leaves open, or names wrongly. -/
inductive PropertyChoice where
  | unspecified
  | given (property : Property)
  | unknown
deriving DecidableEq, Repr

namespace Layout

variable {n : Nat}

def checkProperty (l : Layout n) (property : Property) : Except Failure Property :=
  if property = .symmetric ∧ l.rows ≠ l.cols then
    .error (.value (.asymmetric l.rows l.cols))
  else .ok property

/-- The chosen property; one has to be chosen. -/
def demandProperty (l : Layout n) : PropertyChoice -> Except Failure Property
  | .given property => l.checkProperty property
  | _ => .error (.value .property)

def propertyFrom (l : Layout n) : PropertyChoice -> Except Failure (Option Property)
  | .unspecified => .ok none
  | choice => (l.demandProperty choice).map some

def transition (l : Layout n) (source target : State) : Event :=
  .transition l.rows l.cols source target

end Layout

namespace DistributedMatrix

variable {n : Nat} {alpha beta : Type}

def after (a : DistributedMatrix n alpha) (replies : Replies n alpha beta) :
    DistributedMatrix n alpha :=
  { a with parts := replies.map Reply.part }

def part (a : DistributedMatrix n alpha) (r : Fin n) : Part alpha :=
  a.parts.get r

def blocks (a : DistributedMatrix n alpha) : PerProcess n (Dense alpha) :=
  a.parts.map Part.block

def operand (a : DistributedMatrix n alpha) (r : Fin n) : Operand alpha :=
  ⟨.ofPrecision a.layout.precision, (a.part r).block, a.layout.descriptor r⟩

def blank [Zero alpha] (layout : Layout n) (property : Property) : DistributedMatrix n alpha where
  layout := layout
  parts := Vector.ofFn fun r =>
    { block := Dense.zeros (layout.localShape r).1 (layout.localShape r).2
      state := .uninitialized
      property := property
      freshProperty := property }

/-- The part of a process with another property, now and for content loaded anew. -/
def setPropertyOn (a : DistributedMatrix n alpha) (choice : PropertyChoice) (r : Fin n) :
    Reply alpha Unit :=
  match a.layout.demandProperty choice with
  | .ok p => .answer { a.part r with property := p, freshProperty := p } ()
  | .error failure => .refuse (a.part r) failure

def setProperty (a : DistributedMatrix n alpha) (choice : PropertyChoice) : Replies n alpha Unit :=
  Vector.ofFn (a.setPropertyOn choice)

end DistributedMatrix
end BlockCyclic
