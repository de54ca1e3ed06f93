import BlockCyclic.Serial

/-!
# Symmetric eigenproblem

A symmetric matrix is made diagonal by plane rotations: each one makes a pair of
entries off the diagonal vanish, and sweeps over all pairs are repeated until no
entry off the diagonal matters. The product of the rotations holds the eigenvectors.
The matrix is scaled by a power of two beforehand, which loses nothing.

The work is done in doubles for either precision.
-/

namespace BlockCyclic
namespace Eigen

structure Rotation where
  cosine : Float
  sine : Float

namespace Rotation

/-- The smaller rotation that makes the entry between two diagonal entries vanish. -/
def annihilating (first second between : Float) : Rotation :=
  let slope := (second - first) / (2.0 * between)
  let size := 1.0 / (slope.abs + (1.0 + slope * slope).sqrt)
  let tangent := if slope < 0.0 then -size else size
  let cosine := 1.0 / (1.0 + tangent * tangent).sqrt
  ⟨cosine, tangent * cosine⟩

def entries (r : Rotation) (p q : Nat) (x : Array Float) : Array Float :=
  let a := x.getD p 0
  let b := x.getD q 0
  (x.modify p fun _ => r.cosine * a - r.sine * b).modify q fun _ => r.sine * a + r.cosine * b

def rows (r : Rotation) (p q : Nat) (x : Array (Array Float)) : Array (Array Float) :=
  let a := x.getD p #[]
  let b := x.getD q #[]
  (x.modify p fun _ => Array.zipWith (fun u v => r.cosine * u - r.sine * v) a b).modify q
    fun _ => Array.zipWith (fun u v => r.sine * u + r.cosine * v) a b

end Rotation

/-- A matrix on its way to a diagonal one, and the rotations so far, both by rows. -/
structure Progress where
  matrix : Array (Array Float)
  vectors : Array (Array Float)
  /-- Whether this sweep has rotated anything. -/
  moved : Bool

namespace Progress

def entry (s : Progress) (i j : Nat) : Float :=
  (s.matrix.getD i #[]).getD j 0

/-- Entries this small beside the largest one are taken for zero. -/
def negligible : Float := Float.scaleB 1.0 (-100)

/-- The entry in row `p` and column `q` made to vanish, unless it is negligible. -/
def rotate (s : Progress) (p q : Nat) : Progress :=
  let between := s.entry p q
  if between.abs ≤ negligible then s
  else
    let r := Rotation.annihilating (s.entry p p) (s.entry q q) between
    let turned := (r.rows p q s.matrix).map (r.entries p q)
    let cleared :=
      (turned.modify p fun row => row.modify q fun _ => 0.0).modify q
        fun row => row.modify p fun _ => 0.0
    ⟨cleared, s.vectors.map (r.entries p q), true⟩

def sweep (n : Nat) (s : Progress) : Progress :=
  (List.range n).foldl
    (fun s p => (List.range' (p + 1) (n - (p + 1))).foldl (fun s q => s.rotate p q) s)
    { s with moved := false }

/-- Sweeps until nothing moves, and whether that happened within the given number. -/
def settle (n : Nat) : Nat -> Progress -> Progress × Bool
  | 0, s => (s, false)
  | sweeps + 1, s =>
      let next := s.sweep n
      if next.moved then settle n sweeps next else (next, true)

end Progress

def symmetricRows (t : Triangle) (a : Dense Float) : Array (Array Float) :=
  (Array.range a.rows).map fun i =>
    (Array.range a.rows).map fun j => if t.contains i j then a.get i j else a.get j i

/-- The power of two that brings the largest magnitude into `[1/2, 1)`. -/
def scaleExponent (rows : Array (Array Float)) : Int :=
  let top := rows.foldl (fun m row => row.foldl (fun m x => max m x.abs) m) 0.0
  if top == 0.0 then 0 else -top.frExp.2

def identityRows (n : Nat) : Array (Array Float) :=
  (Array.range n).map fun i => (Array.range n).map fun j => if i = j then 1.0 else 0.0

/-- Eigenvalues in ascending order, with their vectors in columns. -/
def symmetric (t : Triangle) (a : Dense Float) : Spectrum Float :=
  let n := a.rows
  let rows := symmetricRows t a
  let shift := scaleExponent rows
  let start : Progress :=
    ⟨rows.map fun row => row.map fun x => x.scaleB shift, identityRows n, false⟩
  let settled := start.settle n 100
  let result := settled.1
  let value (k : Nat) : Float := (result.entry k k).scaleB (-shift)
  let order := ((List.range n).mergeSort fun k l => !decide (value l < value k)).toArray
  { values := order.map value
    vectors := Dense.ofFn n n fun i j =>
      (result.vectors.getD i #[]).getD (order.getD j 0) 0
    status := if settled.2 then 0 else 1 }

/-!
# Workspace

The sizes that the serial solver asks for are words of 32 bits, and the first one is told as
a number of the precision, which is never below the size.
-/

def shortWord (x : Int) : Int :=
  x.bmod (Nat.pow 2 32)

def singleNear (num den : Nat) : Nat × Nat :=
  match BinaryFormat.single.round? num den with
  | some d => d.fraction
  | none => (num, den)

def singleAbove (size : Nat) : Nat × Nat :=
  let near := singleNear size 1
  if near.1 < size * near.2 then
    singleNear (near.1 * (Nat.pow 2 23 + 1)) (near.2 * Nat.pow 2 23)
  else near

def toldSize (p : Precision) (size : Int) : Rat :=
  match p with
  | .double => size
  | .single =>
      if size < 0 then size
      else
        let told := singleAbove size.toNat
        mkRat told.1 told.2

/-- The workspace does not depend on the triangle, and a negative order needs none. -/
def workspace (p : Precision) (vectors _lower : Bool) (order : Int) : Rat × Int :=
  if order < 0 then (0, 0)
  else if order ≤ 1 then (1, 1)
  else
    let least := if vectors then 1 + 6 * order + 2 * order * order else 2 * order + 1
    (toldSize p (max (shortWord (34 * order)) (shortWord least)),
      if vectors then shortWord (3 + 5 * order) else 1)

end Eigen
end BlockCyclic
