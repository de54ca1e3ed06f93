import BlockCyclic.Matrix.Element
import BlockCyclic.Matrix.Factor
import BlockCyclic.Matrix.Load

/-!
# Calls

Everything that can be asked of a matrix, as one type, so that whole programs of
calls can be run and reasoned about. A program goes on after a failure.
-/

namespace BlockCyclic

variable {n : Nat} {delta alpha rho : Type}

inductive Call (n : Nat) (delta alpha rho : Type) where
  | setProperty (choice : PropertyChoice)
  | assign (x : PerProcess n (Option (Sheet delta))) (choice : PropertyChoice)
  | fill (f : Region -> Except Failure (Sheet delta)) (choice : PropertyChoice)
  /-- Only some processes write; the others do nothing. -/
  | setElement (writers : Fin n -> Bool) (i j : Subscript) (value : alpha)
  | copyTo (everywhere : Bool)
  | cholesky
  | invert
  | eigen (vectors : Bool)
  | condition (norm : PerProcess n rho)
  | norm (kind : NormKind)

inductive Answer (alpha rho : Type) where
  | done
  | content (x : Option (Dense alpha))
  | eigenvalues (values : Array alpha)
  | measure (value : rho)

namespace Answer

/-- The whole content, if the answer is one that a process has received. -/
def content? : Answer alpha rho -> Option (Dense alpha)
  | .content x => x
  | _ => none

def eigenvalues? : Answer alpha rho -> Option (Array alpha)
  | .eigenvalues values => some values
  | _ => none

def measure? : Answer alpha rho -> Option rho
  | .measure value => some value
  | _ => none

end Answer

def Reply.map {beta gamma : Type} (f : beta -> gamma) (reply : Reply alpha beta) :
    Reply alpha gamma :=
  ⟨reply.part, reply.result.map f, reply.log⟩

namespace DistributedMatrix

variable [Zero alpha] [Zero rho] [Measure rho]

def perform (numerics : Numerics delta alpha rho) (a : DistributedMatrix n alpha) :
    Call n delta alpha rho -> Replies n alpha (Answer alpha rho)
  | .setProperty choice => (a.setProperty choice).map (Reply.map fun _ => .done)
  | .assign x choice => (a.assign numerics x choice).map (Reply.map fun _ => .done)
  | .fill f choice => (a.fill numerics f choice).map (Reply.map fun _ => .done)
  | .setElement writers i j value =>
      Vector.ofFn fun r =>
        if writers r then (a.setElement r i j value).map fun _ => .done
        else .answer (a.part r) .done
  | .copyTo everywhere => (a.copyTo everywhere).map (Reply.map .content)
  | .cholesky => (a.cholesky numerics).map (Reply.map fun _ => .done)
  | .invert => (a.invert numerics).map (Reply.map fun _ => .done)
  | .eigen vectors => (a.eigen numerics vectors).map (Reply.map .eigenvalues)
  | .condition norm => (a.condition numerics norm).map (Reply.map .measure)
  | .norm kind => (a.norm numerics kind).map (Reply.map .measure)

def next (numerics : Numerics delta alpha rho) (a : DistributedMatrix n alpha)
    (call : Call n delta alpha rho) : DistributedMatrix n alpha :=
  a.after (a.perform numerics call)

def run (numerics : Numerics delta alpha rho) (a : DistributedMatrix n alpha)
    (program : List (Call n delta alpha rho)) : DistributedMatrix n alpha :=
  program.foldl (fun a call => a.next numerics call) a

end DistributedMatrix

/-!
# Calls on a single process

A process may have a matrix that others could not create. What it can do by itself it
still does, and it refuses what its own state does not allow. Where it would have to
exchange something with the others, there is no exchange.
-/

namespace Call

def isLocal : Call n delta alpha rho -> Bool
  | .setProperty _ | .fill .. | .setElement .. => true
  | _ => false

end Call

def Part.admits (p : Part alpha) : Call n delta alpha rho -> Except Failure Unit
  | .copyTo _ => p.requireState .copy
  | .cholesky => p.requireSymmetric .cholesky
  | .invert => p.requireState .inversion
  | .eigen _ => p.requireSymmetric .eigen
  | .condition _ => p.requireState .condition
  | .norm kind => p.requireState (.norm kind)
  | .setProperty _ | .assign .. | .fill .. | .setElement .. => .ok ()

namespace DistributedMatrix

variable [Zero alpha]

/-- The reply of a process that has admitted a call which others take no part in. -/
def replyAlone (numerics : Numerics delta alpha rho) (a : DistributedMatrix n alpha) (r : Fin n) :
    Call n delta alpha rho -> Reply alpha (Answer alpha rho)
  | .setProperty choice => (a.setPropertyOn choice r).map fun _ => .done
  | .fill f choice => (a.fillOn numerics f choice r).map fun _ => .done
  | .setElement writers i j value =>
      if writers r then (a.setElement r i j value).map fun _ => .done
      else .answer (a.part r) .done
  | .assign _ choice =>
      match a.layout.propertyFrom choice with
      | .error failure => .refuse (a.part r) failure
      | .ok _ => .refuse (a.part r) .exchange
  | .copyTo false =>
      if a.layout.grid.active r then .refuse (a.part r) .exchange
      else .answer (a.part r) (.content none)
  | _ => .refuse (a.part r) .exchange

def performAlone (numerics : Numerics delta alpha rho) (a : DistributedMatrix n alpha)
    (call : Call n delta alpha rho) (r : Fin n) : Reply alpha (Answer alpha rho) :=
  .guarded (a.part r) ((a.part r).admits call) (a.replyAlone numerics r call)

end DistributedMatrix

end BlockCyclic
