import BlockCyclic.Distribution

/-!
# Distribution descriptors

The nine fields that describe a distributed operand to a kernel. A descriptor is a
value: it is built once and compared field by field.
-/

namespace BlockCyclic

structure DescriptorOf (beta : Type) where
  context : beta
  m : beta
  n : beta
  mb : beta
  nb : beta
  /-- Grid position of the first entry. -/
  rsrc : beta
  csrc : beta
  lld : beta
  /-- Kind of the descriptor; dense matrices have kind one. -/
  dtype : beta
deriving DecidableEq, Repr

abbrev Descriptor := DescriptorOf Int

namespace DescriptorOf

variable {beta gamma : Type}

def fields (d : DescriptorOf beta) : List (String × beta) :=
  [("context", d.context), ("m", d.m), ("n", d.n), ("mb", d.mb), ("nb", d.nb),
    ("rsrc", d.rsrc), ("csrc", d.csrc), ("lld", d.lld), ("dtype", d.dtype)]

/-- The fields in the order in which native kernels take them, the kind first. -/
def inKernelOrder (d : DescriptorOf beta) : List beta :=
  [d.dtype, d.context, d.m, d.n, d.mb, d.nb, d.rsrc, d.csrc, d.lld]

def setField? (d : DescriptorOf beta) (name : String) (value : beta) :
    Option (DescriptorOf beta) :=
  match name with
  | "context" => some { d with context := value }
  | "m" => some { d with m := value }
  | "n" => some { d with n := value }
  | "mb" => some { d with mb := value }
  | "nb" => some { d with nb := value }
  | "rsrc" => some { d with rsrc := value }
  | "csrc" => some { d with csrc := value }
  | "lld" => some { d with lld := value }
  | "dtype" => some { d with dtype := value }
  | _ => none

def map (f : beta -> gamma) (d : DescriptorOf beta) : DescriptorOf gamma where
  context := f d.context
  m := f d.m
  n := f d.n
  mb := f d.mb
  nb := f d.nb
  rsrc := f d.rsrc
  csrc := f d.csrc
  lld := f d.lld
  dtype := f d.dtype

def shape (d : DescriptorOf beta) : beta × beta :=
  (d.m, d.n)

def blockSizes (d : DescriptorOf beta) : beta × beta :=
  (d.mb, d.nb)

def text (write : beta -> String) (d : DescriptorOf beta) : String :=
  "Descriptor(" ++ ", ".intercalate (d.fields.map fun f => f.1 ++ "=" ++ write f.2) ++ ")"

end DescriptorOf

namespace Descriptor

/-- The descriptor of a matrix; the leading dimension is at least one. -/
def create (shape blocks : Int × Int) (context localRows : Int) (sources : Int × Int) :
    Descriptor where
  context := context
  m := shape.1
  n := shape.2
  mb := blocks.1
  nb := blocks.2
  rsrc := sources.1
  csrc := sources.2
  lld := max 1 localRows
  dtype := 1

def distribution (d : Descriptor) (grid : Int × Int) : Distribution where
  rows := d.m
  cols := d.n
  rowAxis := ⟨d.mb, grid.1, d.rsrc⟩
  colAxis := ⟨d.nb, grid.2, d.csrc⟩

end Descriptor
end BlockCyclic
