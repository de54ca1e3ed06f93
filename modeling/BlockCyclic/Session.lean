import BlockCyclic.Matrix.Call
import BlockCyclic.Matrix.Request
import BlockCyclic.Report
import BlockCyclic.Serial.Kernels
import BlockCyclic.Settings
import BlockCyclic.Sheet.Entry

/-!
# Sessions

A session holds grids and matrices by name. Every turn is taken by all processes at
once; a failure is the result of the turn, and the session goes on.
-/

namespace BlockCyclic

/-!
# Arithmetic at run time
-/

/-- The larger of two doubles; no number is larger than any. -/
def largerFloat (a b : Float) : Float :=
  if a.isNaN then a else if b.isNaN then b else if a < b then b else a

/-- The content that an entry becomes; one that cannot enter is never asked for it. -/
def Entry.content (p : Precision) : Entry -> Float
  | .ok x => x.toPrecision p
  | .error _ => 0.0

def machineNumerics : Numerics Entry Float Float where
  enter := Entry.content
  serial := machineKernels
  norms :=
    { zero := 0.0
      magnitude := Float.abs
      add := (· + ·)
      square x := x * x
      larger := largerFloat
      root := Float.sqrt }

/-!
# State of a session
-/

variable {n : Nat}

structure Held (n : Nat) where
  matrix : DistributedMatrix n Float
  backend : Backend
  eigenvalues : Option (PerProcess n (Array Float))
  /-- The processes on which the matrix could be created. -/
  present : PerProcess n Bool

/-- A matrix that could be created on all processes. -/
def Created.held (c : Created n Float) : Held n :=
  ⟨c.matrix, c.backend, none, Vector.ofFn fun _ => true⟩

/-- The objects that have been given names, and what is kept between turns. -/
structure Session (n : Nat) where
  settings : Settings
  grids : Registry (Grid n)
  matrices : Registry (Held n)
  /-- Norms that were kept for later, where a process has computed one. -/
  norms : Registry (PerProcess n (Option Float))
  /-- Identity of the next grid. -/
  nextContext : Int

structure Turn (n : Nat) where
  session : Session n
  results : PerProcess n (Except Failure Report)
  logs : PerProcess n (List Event)

namespace Turn

def quiet (session : Session n) (results : PerProcess n (Except Failure Report)) : Turn n :=
  ⟨session, results, Vector.ofFn fun _ => []⟩

def each (session : Session n) (f : Fin n -> Except Failure Report) : Turn n :=
  quiet session (Vector.ofFn f)

def fail (session : Session n) (failure : Failure) : Turn n :=
  each session fun _ => .error failure

/-- The turn on the processes that know a name; the others do not find it. -/
def among (known : PerProcess n Bool) (t : Turn n) : Turn n :=
  { t with
    results := Vector.ofFn fun r => if known.get r then t.results.get r else .error .unknownName
    logs := Vector.ofFn fun r => if known.get r then t.logs.get r else [] }

end Turn

namespace Session

def start (settings : Settings) : Session n :=
  ⟨settings, .empty, .empty, .empty, 1⟩

def withGrid (s : Session n) (name : String) (f : Grid n -> Turn n) : Turn n :=
  match s.grids.lookup name with
  | some g => f g
  | none => .fail s .unknownName

def withMatrix (s : Session n) (name : String) (f : Held n -> Turn n) : Turn n :=
  match s.matrices.lookup name with
  | some h => (f h).among h.present
  | none => .fail s .unknownName

def requireGrid (s : Session n) (name : String) : Except Failure Unit :=
  if (s.grids.lookup name).isSome then .ok () else .error .unknownName

def requireMatrix (s : Session n) (name : String) : Except Failure Unit :=
  if (s.matrices.lookup name).isSome then .ok () else .error .unknownName

def keep (s : Session n) (name : String) (h : Held n) : Session n :=
  { s with matrices := s.matrices.register name h }

def stateText? (s : Session n) (name : String) : Option (PerProcess n (Option String)) :=
  (s.matrices.lookup name).map fun h => Vector.ofFn fun r =>
    let p := h.matrix.part r
    if h.present.get r then some (p.state.name ++ "/" ++ p.property.name) else none

end Session

/-!
# Calls
-/

/-- What keeps a process from finishing a call, with its log records up to there. -/
abbrev Obstacle := Option (Failure × List Event)

def obstacleOf {beta : Type} (check : Except Failure beta) (concerned : Bool) : Obstacle :=
  match check with
  | .error failure => if concerned then some (failure, []) else none
  | .ok _ => none

def finish {beta : Type} (part : Part Float) (obstacle : Obstacle)
    (reply : Unit -> Reply Float beta) : Reply Float beta :=
  match obstacle with
  | some (failure, log) => ⟨part, .error failure, log⟩
  | none => reply ()

namespace Held

/-- Whether the processes can answer a call together: all have the matrix, and one may start. -/
def answersTogether (h : Held n) (c : Call n Entry Float Float) : Bool :=
  h.present.all id && !c.isLocal
    && (List.finRange n).any fun r => ((h.matrix.part r).admits c).isOk

/-- The replies to a call; a process without the matrix is not asked. -/
def perform (h : Held n) (obstacle : Fin n -> Obstacle) (c : Call n Entry Float Float) :
    Replies n Float (Answer Float Float) :=
  let a := h.matrix
  if h.answersTogether c then
    let own := a.perform machineNumerics c
    Vector.ofFn fun r => finish (a.part r) (obstacle r) fun _ => own.get r
  else
    Vector.ofFn fun r =>
      if h.present.get r then
        finish (a.part r) (obstacle r) fun _ => a.performAlone machineNumerics c r
      else .refuse (a.part r) .unknownName

end Held

namespace Session

def callWith (s : Session n) (name : String) (obstacle : Held n -> Fin n -> Obstacle)
    (c : Call n Entry Float Float) (write : Held n -> Fin n -> Answer Float Float -> Report) :
    Turn n :=
  s.withMatrix name fun h =>
    let replies := h.perform (obstacle h) c
    let next := { h with matrix := h.matrix.after replies }
    { session := s.keep name next
      results := Vector.ofFn fun r => (replies.get r).result.map (write next r)
      logs := replies.map Reply.log }

def call (s : Session n) (name : String) (c : Call n Entry Float Float)
    (write : Held n -> Fin n -> Answer Float Float -> Report) : Turn n :=
  s.callWith name (fun _ _ => none) c write

end Session
end BlockCyclic
