import BlockCyclic.Descriptor
import BlockCyclic.Distribution.Numbers

/-!
# Loosely typed descriptors

A descriptor takes any values as its fields and shows them as they were given. They
have to be numbers only where they are computed with: as words for native kernels, or
as local extents on a grid.
-/

namespace BlockCyclic

/-!
# Equal values
-/

namespace Argument

/-- Whether two values are equal; numbers of any kind are compared by value. -/
def equals (a b : Argument) : Bool :=
  match a, b with
  | absent, absent => true
  | text s, text t => s == t
  | list xs, list ys =>
      xs.length == ys.length && (xs.attach.zip ys).all fun ⟨⟨x, _⟩, y⟩ => equals x y
  | record fs, record gs =>
      fs.length == gs.length && fs.attach.all fun ⟨f, _⟩ =>
        gs.any fun g => f.1 == g.1 && equals f.2 g.2
  | a, b =>
      match a.plainNumber?, b.plainNumber? with
      | some x, some y => x.same y
      | _, _ => false
termination_by sizeOf a
decreasing_by
  all_goals simp_wf
  · rename_i h
    have := List.sizeOf_lt_of_mem h
    omega
  · rename_i h
    have := List.sizeOf_lt_of_mem h
    cases f
    simp at *
    omega

end Argument

abbrev LooseDescriptor := DescriptorOf Argument

namespace LooseDescriptor

/-!
# Construction
-/

/-- The greater one of a value and one; equal to one, it is one. -/
def atLeastOne (a : Argument) : Except Failure Argument := do
  let x <- a.plainNumber
  return if (Number.int 1).below x then a else .whole 1

def create (shape blocks context localRows sources : Argument) :
    Except Failure LooseDescriptor := do
  let shape := Argument.list (<- shape.items)
  let blocks := Argument.list (<- blocks.items)
  let sources := Argument.list (<- sources.items)
  let m <- shape.itemAt 0
  let n <- shape.itemAt 1
  let mb <- blocks.itemAt 0
  let nb <- blocks.itemAt 1
  let rsrc <- sources.itemAt 0
  let csrc <- sources.itemAt 1
  return ⟨context, m, n, mb, nb, rsrc, csrc, <- atLeastOne localRows, .whole 1⟩

/-- The names that have to be given; the kind may be left out. -/
def required : List String :=
  ["context", "m", "n", "mb", "nb", "rsrc", "csrc", "lld"]

def empty : LooseDescriptor :=
  ⟨.absent, .absent, .absent, .absent, .absent, .absent, .absent, .absent, .whole 1⟩

def setFields (d : LooseDescriptor) (given : List (String × Argument)) :
    Except Failure LooseDescriptor :=
  match given.foldlM (fun d f => DescriptorOf.setField? d f.1 f.2) d with
  | some d => .ok d
  | none => .error .unusable

def ofFields (given : List (String × Argument)) : Except Failure LooseDescriptor :=
  if required.all fun name => given.any fun f => f.1 == name then empty.setFields given
  else .error .unusable

def ofDescriptor (d : Descriptor) : LooseDescriptor :=
  d.map Argument.whole

/-!
# Comparison and conversion
-/

def equals (d e : LooseDescriptor) : Bool :=
  (d.fields.zip e.fields).all fun f => f.1.2.equals f.2.2

/-- The nine words of 32 bits that native kernels take. -/
def words (d : LooseDescriptor) : Except Failure (List Int) :=
  let isList (a : Argument) : Bool :=
    match a with
    | .list _ => true
    | _ => false
  if d.inKernelOrder.any isList then .error (.value .unsuitable)
  else d.inKernelOrder.mapM (Argument.wordWithin (NumberFormat.signedRange 32))

def rowAxis (d : LooseDescriptor) (procs : Int) : Except Failure NumberAxis := do
  return ⟨<- d.mb.plainNumber, .int procs, <- d.rsrc.plainNumber⟩

def colAxis (d : LooseDescriptor) (procs : Int) : Except Failure NumberAxis := do
  return ⟨<- d.nb.plainNumber, .int procs, <- d.csrc.plainNumber⟩

end LooseDescriptor
end BlockCyclic
