import BlockCyclic.Failure
import BlockCyclic.Number.ElementType.Name
import BlockCyclic.Text.Numeral

/-!
# Backends, settings and names

A backend is chosen by name, and settings say which one is taken where none is named. A
registry keeps values by name.
-/

namespace BlockCyclic

/-!
# Numerical backends

A backend is chosen by name among those that are registered. A backend without
kernels of its own only knows its element type.
-/

/-- A registered family of kernels. -/
structure Backend where
  name : String
  family : String
deriving DecidableEq, Repr

namespace Backend

/-- The serial kernels, run by the first process of a grid. -/
def serialOnRoot : Backend := ⟨"scipy", "ScipyBackend"⟩

def available : List Backend := [serialOnRoot]

def named (name : Argument) : Except Failure Backend :=
  match name with
  | .list _ | .record _ => .error .unusable
  | .text s =>
      match available.find? fun b => b.name == s with
      | some b => .ok b
      | none => unknown
  | _ => unknown
where
  unknown : Except Failure Backend :=
    .error (.value (.backend name.printed (available.map Backend.name)))

end Backend

/-!
# Kernels by name
-/

inductive KernelName where
  | factor
  | invert
  | transpose
  | eigenWorkspace
  | eigen
  | conditionWorkspace
  | condition
deriving DecidableEq, Repr

namespace KernelName

def routine : KernelName -> String
  | factor => "potrf"
  | invert => "potri"
  | transpose => "tran"
  | eigenWorkspace => "syev_lwork"
  | eigen => "syev"
  | conditionWorkspace => "pocon_lwork"
  | condition => "pocon"

def all : List KernelName :=
  [factor, invert, transpose, eigenWorkspace, eigen, conditionWorkspace, condition]

def ofRoutine? (routine : String) : Option KernelName :=
  all.find? fun k => k.routine == routine

end KernelName

/-- A backend that defines no kernel. -/
structure BareBackend where
  elementType : ElementType

namespace BareBackend

def create (elementType : Argument) : Except Failure BareBackend :=
  (ElementType.ofArgument elementType).map BareBackend.mk

def call (_ : BareBackend) (_ : KernelName) : Except Failure Int :=
  .error .notImplemented

end BareBackend

/-!
# Settings

The block size and the backend that are taken where none is given. Both may be set
in the environment.
-/

structure Settings where
  blockSize : Int
  backend : String
deriving DecidableEq, Repr

namespace Settings

def standard : Settings := ⟨32, "scipy"⟩

def blockSizeVariable : String := "SCALAPACK_MPI_BLOCK_SIZE"

def backendVariable : String := "SCALAPACK_MPI_BACKEND"

/-- The value of a variable; the last setting counts. -/
def lookup (environment : List (String × String)) (name : String) : Option String :=
  (environment.reverse.find? fun v => v.1 == name).map Prod.snd

/-- The settings in an environment; a block size has to be an integer. -/
def ofEnvironment (environment : List (String × String)) : Except Failure Settings :=
  let backend := (lookup environment backendVariable).getD standard.backend
  match lookup environment blockSizeVariable with
  | none => .ok { standard with backend := backend }
  | some text =>
      match Numeral.integer? text with
      | some size => .ok ⟨size, backend⟩
      | none => .error (.value .unsuitable)

end Settings

/-!
# Registries

Values by name. Registering a value under a name that is taken replaces the old one.
-/

/-- Values by name; the entry found first counts. -/
structure Registry (beta : Type) where
  entries : List (String × beta)

namespace Registry

variable {beta : Type}

def empty : Registry beta := ⟨[]⟩

def lookup (t : Registry beta) (name : String) : Option beta :=
  (t.entries.find? fun e => e.1 == name).map Prod.snd

def register (t : Registry beta) (name : String) (value : beta) : Registry beta :=
  ⟨(name, value) :: t.entries.filter fun e => e.1 != name⟩

@[simp] theorem lookup_empty (name : String) : (empty : Registry beta).lookup name = none := rfl

@[simp] theorem lookup_register_self (t : Registry beta) (name : String) (value : beta) :
    (t.register name value).lookup name = some value := by
  simp [lookup, register]

theorem lookup_register_ne (t : Registry beta) {name other : String} (value : beta)
    (h : other ≠ name) : (t.register name value).lookup other = t.lookup other := by
  have hfind : ((t.entries.filter fun e => e.1 != name).find? fun e => e.1 == other)
      = t.entries.find? fun e => e.1 == other := by
    rw [List.find?_filter]
    congr 1
    funext e
    by_cases he : e.1 = other
    · simp [he, h]
    · simp [he]
  simp [lookup, register, hfind, Ne.symm h]

end Registry

end BlockCyclic
