import BlockCyclic.Distribution
import BlockCyclic.Failure

/-!
# Machine words and room

Sizes and indices are computed in signed words of 64 bits. Blocks that are very long leave
the range of words, and a buffer may be asked for that is larger than words can measure, or
larger than the memory of a process.
-/

namespace BlockCyclic

namespace Words

def wrap (x : Int) : Int :=
  x.bmod (Nat.pow 2 64)

/-- Words lie from the negated bound up to below the bound. -/
def bound : Int := Int.ofNat (Nat.pow 2 63)

def fits (x : Int) : Bool :=
  -bound ≤ x && x < bound

/-- Floor quotient of words; by zero it is zero. -/
def quot (x y : Int) : Int :=
  if y = 0 then 0 else wrap (x.fdiv y)

/-- Floor remainder of words; by zero it is zero. -/
def rem (x y : Int) : Int :=
  if y = 0 then 0 else x.fmod y

end Words

/-!
# Axes that are mapped in words
-/

namespace Axis

/-- Whether the indices of an axis can be mapped to their owners in words. -/
def ownersFit (a : Axis) : Bool :=
  Words.fits a.block && Words.fits a.procs

/-- Whether the local slots of process `p` can be mapped to indices in words. -/
def indicesFit (a : Axis) (p : Int) : Bool :=
  a.ownersFit && Words.fits (a.offset p * a.block)

end Axis

/-!
# Regions that are mapped in words
-/

def Distribution.regionsFit (d : Distribution) (grid : Nat × Nat) : Bool :=
  ((List.range grid.1).all fun p : Nat => d.rowAxis.indicesFit p)
    && (List.range grid.2).all fun p : Nat => d.colAxis.indicesFit p

/-!
# Room for buffers
-/

/-- The largest size in bytes of a buffer for which a process has room. -/
def roomInBytes : Int := Int.ofNat (Nat.pow 2 36)

/-- The largest number of entries for which a process has room in a matrix or a table. -/
def roomForEntries : Nat := Nat.pow 2 28

def bufferLength (bytes : Nat) (k : Int) : Except Failure Int :=
  if k < 0 || !Words.fits (k * bytes) then .error (.value .unsuitable)
  else if roomInBytes < k * bytes then .error .noRoom
  else .ok k

/-- The length of a table that counts up to `k`, which is empty where `k` is negative. -/
def countingLength (k : Int) : Except Failure Nat :=
  if Words.fits k && Words.fits (max k 0 * 8) then
    if roomForEntries < k then .error .noRoom else .ok k.toNat
  else .error (.value .unsuitable)

end BlockCyclic
