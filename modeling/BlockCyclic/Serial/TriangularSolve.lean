import BlockCyclic.Dense
import BlockCyclic.Serial

/-!
# Triangular systems within the range of numbers

The solution of a triangular system can leave the range of numbers although the system
does not. A bound on its growth is computed first. Where it is harmless, the system is
solved as it stands; else every step scales all entries down before one of them would
overflow, and the solution comes with the scale that belongs to it: the solution of the
system is `x` divided by `scale`, and a zero pivot makes the scale zero.
-/

namespace BlockCyclic

variable {alpha : Type} [Zero alpha] [One alpha] [Add alpha] [Sub alpha] [Mul alpha] [Div alpha]
  [Neg alpha] [Arithmetic alpha]

/-- A solution with its scale and the largest magnitude among its entries. -/
structure Scaled (alpha : Type) where
  x : Array alpha
  scale : alpha
  largest : alpha

namespace Scaled

def times (s : Scaled alpha) (factor : alpha) : Scaled alpha :=
  ⟨s.x.map (factor * ·), s.scale * factor, s.largest * factor⟩

def entry (s : Scaled alpha) (j : Nat) : alpha :=
  s.x.getD j 0

def withEntry (s : Scaled alpha) (j : Nat) (value : alpha) : Scaled alpha :=
  { s with x := s.x.modify j fun _ => value }

end Scaled

namespace TriangularSolve

open Arithmetic

/-!
# Range
-/

def small : alpha := least / spacing

def large : alpha := 1 / small

def half : alpha := 1 / ofCount 2

def largest (x : Array alpha) : alpha :=
  x.foldl (fun m v => greater m (Arithmetic.abs v)) 0

/-- The sum of magnitudes above the diagonal, for every column. -/
def columnNorms (u : Dense alpha) : Array alpha :=
  (Array.range u.cols).map fun j =>
    total ((List.range j).map fun i => Arithmetic.abs (u.get i j))

/-- The factor that brings column norms into range. -/
def normScale (norms : Array alpha) : alpha :=
  let top := largest norms
  if less large top then 1 / (small * top) else 1

/-!
# Growth

Reciprocals of bounds on the entries of a solution.
-/

/-- Two bounds that are carried along the columns. -/
structure Growth (alpha : Type) where
  grow : alpha
  bound : alpha
  /-- Whether the growth became too large to go on. -/
  stopped : Bool

def Growth.start (top : alpha) : Growth alpha :=
  let g := 1 / greater top small
  ⟨g, g, false⟩

def growTransposed (norm pivot : alpha) (g : Growth alpha) : Growth alpha :=
  if g.stopped || !less small g.grow then { g with stopped := true }
  else
    let next := 1 + norm
    { grow := lesser g.grow (g.bound / next)
      bound := if less pivot next then g.bound * (pivot / next) else g.bound
      stopped := false }

def growDirect (norm pivot : alpha) (g : Growth alpha) : Growth alpha :=
  if g.stopped || !less small g.grow then { g with stopped := true }
  else
    { grow := if less (pivot + norm) small then 0 else g.grow * (pivot / (pivot + norm))
      bound := lesser g.bound (lesser 1 pivot * g.grow)
      stopped := false }

/-- The bound for the transposed system, whose columns are taken from the first one on. -/
def transposedGrowth (u : Dense alpha) (norms : Array alpha) (top : alpha) : alpha :=
  let g := (List.range u.cols).foldl
    (fun g j => growTransposed (norms.getD j 0) (Arithmetic.abs (u.get j j)) g)
    (Growth.start top)
  if g.stopped then g.grow else lesser g.grow g.bound

/-- The bound for the system itself, whose columns are taken from the last one on. -/
def directGrowth (u : Dense alpha) (norms : Array alpha) (top : alpha) : alpha :=
  let g := (List.range u.cols).reverse.foldl
    (fun g j => growDirect (norms.getD j 0) (Arithmetic.abs (u.get j j)) g)
    (Growth.start top)
  if g.stopped then g.grow else g.bound

/-!
# Systems that are solved as they stand
-/

def plainTransposed (u : Dense alpha) (b : Array alpha) : Array alpha :=
  (List.range u.rows).foldl
    (fun x i =>
      let known := total ((List.range i).map fun k => u.get k i * x.getD k 0)
      x.push ((b.getD i 0 - known) / u.get i i))
    #[]

def plainDirect (u : Dense alpha) (b : Array alpha) : Array alpha :=
  let n := u.rows
  let reversed := (List.range n).foldl
    (fun x step =>
      let i := n - 1 - step
      let known := total ((List.range step).map fun k => u.get i (n - 1 - k) * x.getD k 0)
      x.push ((b.getD i 0 - known) / u.get i i))
    #[]
  reversed.reverse

/-!
# Systems that are scaled on the way
-/

/-- A right-hand side whose entries are not large. -/
def entering (b : Array alpha) : Scaled alpha :=
  let top := largest b
  if less large top then { (Scaled.times ⟨b, 1, top⟩ (large / top)) with largest := large }
  else ⟨b, 1, top⟩

/-- Entry `j` divided by its pivot; where all entries have to shrink, a weight adds to it. -/
def dividedBy (s : Scaled alpha) (j : Nat) (pivot weight : alpha) : Scaled alpha :=
  let xj := Arithmetic.abs (s.entry j)
  let size := Arithmetic.abs pivot
  let tooLarge := less (size * large) xj
  if less small size then
    let t := if less size 1 && tooLarge then s.times (1 / xj) else s
    t.withEntry j (t.entry j / pivot)
  else if less 0 size then
    let shrink := size * large / xj
    let t :=
      if tooLarge then s.times (if less 1 weight then shrink / weight else shrink) else s
    t.withEntry j (t.entry j / pivot)
  else ⟨(Array.range s.x.size).map fun i => if i = j then 1 else 0, 0, 0⟩

/-- A step of the transposed system, which takes the known terms off entry `j`. -/
def transposedStep (u : Dense alpha) (norms : Array alpha) (normScale : alpha) (s : Scaled alpha)
    (j : Nat) : Scaled alpha :=
  let pivot := u.get j j * normScale
  let room := 1 / greater s.largest 1
  let crowded := less ((large - Arithmetic.abs (s.entry j)) * room) (norms.getD j 0)
  let early := crowded && less 1 (Arithmetic.abs pivot)
  let shrink :=
    if early then lesser 1 (room * half * Arithmetic.abs pivot) else room * half
  let s := if crowded && less shrink 1 then s.times shrink else s
  let factor := if early then normScale / pivot else normScale
  let known := total ((List.range j).map fun i => u.get i j * factor * s.entry i)
  let s :=
    if early then s.withEntry j (s.entry j / pivot - known)
    else dividedBy (s.withEntry j (s.entry j - known)) j pivot 0
  { s with largest := greater s.largest (Arithmetic.abs (s.entry j)) }

/-- A step of the system itself, which takes the terms of entry `j` off all entries before it. -/
def directStep (u : Dense alpha) (norms : Array alpha) (normScale : alpha) (s : Scaled alpha)
    (j : Nat) : Scaled alpha :=
  let norm := norms.getD j 0
  let s := dividedBy s j (u.get j j * normScale) norm
  let xj := Arithmetic.abs (s.entry j)
  let room := large - s.largest
  let s :=
    if less 1 xj then
      if less (room * (1 / xj)) norm then s.times (1 / xj * half) else s
    else if less room (xj * norm) then s.times half
    else s
  let step := s.entry j * normScale
  let x := s.x.mapIdx fun i v => if i < j then v - step * u.get i j else v
  { s with x := x, largest := if j = 0 then s.largest else largest (x.extract 0 j) }

def transposed (u : Dense alpha) (b : Array alpha) : Scaled alpha :=
  let norms := columnNorms u
  let scale := normScale norms
  let grow := if less large (largest norms) then 0 else transposedGrowth u norms (largest b)
  if less small (grow * scale) then
    let x := plainTransposed u b
    ⟨x, 1, largest x⟩
  else
    let s := (List.range u.cols).foldl
      (transposedStep u (norms.map (scale * ·)) scale) (entering b)
    { s with scale := s.scale / scale }

def direct (u : Dense alpha) (b : Array alpha) : Scaled alpha :=
  let norms := columnNorms u
  let scale := normScale norms
  let grow := if less large (largest norms) then 0 else directGrowth u norms (largest b)
  if less small (grow * scale) then
    let x := plainDirect u b
    ⟨x, 1, largest x⟩
  else
    let s := (List.range u.cols).reverse.foldl
      (directStep u (norms.map (scale * ·)) scale) (entering b)
    { s with scale := s.scale / scale }

/-!
# Scaling back
-/

/-- Entries divided by a number, in several steps if its reciprocal is out of range. -/
def divideBy : Nat -> alpha -> alpha -> Array alpha -> Array alpha
  | 0, _, _, x => x
  | steps + 1, num, den, x =>
      let top : alpha := 1 / least
      if less (Arithmetic.abs num) (Arithmetic.abs (den * least)) && !isZero num then
        divideBy steps num (den * least) (x.map (least * ·))
      else if less (Arithmetic.abs den) (Arithmetic.abs (num / top)) then
        divideBy steps (num / top) den (x.map (top * ·))
      else x.map (num / den * ·)

def divided (scale : alpha) (x : Array alpha) : Array alpha :=
  divideBy 8 1 scale x

end TriangularSolve
end BlockCyclic
