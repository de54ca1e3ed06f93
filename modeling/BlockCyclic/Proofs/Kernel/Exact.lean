import BlockCyclic.Matrix
import BlockCyclic.Serial.Kernels
import Mathlib.Algebra.Order.Ring.Int

/-!
# Families of serial kernels

Distributed results are stated for any family of serial kernels that keeps shapes. Machine
kernels do, and so do kernels in exact arithmetic.
-/

namespace BlockCyclic

/-!
# Kernels that keep shapes

A serial kernel that succeeds on a square matrix hands back what belongs to its order: a
matrix of the same shape, and as many eigenvalues as there are rows. Kernels that are
written over their operand do so of themselves.
-/

variable {alpha rho : Type}

structure SerialKernels.KeepsShape (k : SerialKernels alpha rho) : Prop where
  factor : forall p t x, x.rows = x.cols -> (k.factor p t x).status = 0 ->
    (k.factor p t x).matrix.rows = x.rows ∧ (k.factor p t x).matrix.cols = x.cols
  invert : forall p t x, x.rows = x.cols -> (k.invert p t x).status = 0 ->
    (k.invert p t x).matrix.rows = x.rows ∧ (k.invert p t x).matrix.cols = x.cols
  values : forall p vectors t x, x.rows = x.cols -> (k.eigen p vectors t x).status = 0 ->
    (k.eigen p vectors t x).values.size = x.rows
  vectors : forall p t x, x.rows = x.cols -> (k.eigen p true t x).status = 0 ->
    (k.eigen p true t x).vectors.rows = x.rows ∧ (k.eigen p true t x).vectors.cols = x.cols

/-- A kernel whose result has the shape of its operand, if that is square. -/
def KeepsSquare (kernel : Dense alpha -> Factored alpha) : Prop :=
  forall x, x.rows = x.cols ->
    (kernel x).matrix.rows = x.rows ∧ (kernel x).matrix.cols = x.cols

section

variable [Zero alpha]

theorem keepsSquare_viaLower {kernel : Dense alpha -> Factored alpha}
    (h : KeepsSquare kernel) (t : Triangle) : KeepsSquare (t.viaLower kernel) := by
  intro x hsquare
  cases t with
  | lower => exact h x hsquare
  | upper =>
      have hturned := h x.transpose hsquare.symm
      exact ⟨hturned.2, hturned.1⟩

end

section

variable [Zero alpha] [One alpha] [Add alpha] [Sub alpha] [Mul alpha] [Div alpha]
  [Neg alpha] [Arithmetic alpha]

omit [Add alpha] [Neg alpha] in
theorem Cholesky.shape_columns (steps k : Nat) (x : Dense alpha) :
    (columns steps k x).matrix.rows = x.rows ∧ (columns steps k x).matrix.cols = x.cols := by
  induction steps generalizing k x with
  | zero => exact ⟨rfl, rfl⟩
  | succ steps ih =>
      unfold columns
      simp only
      split
      · exact ih (k + 1) _
      · exact ⟨rfl, rfl⟩

omit [Add alpha] [Neg alpha] in
theorem Cholesky.keepsSquare_factor (t : Triangle) :
    KeepsSquare (factor t : Dense alpha -> Factored alpha) :=
  keepsSquare_viaLower (fun x _ => shape_columns x.cols 0 x) t

omit [Sub alpha] in
theorem Inverse.keepsSquare_ofFactor (t : Triangle) :
    KeepsSquare (ofFactor t : Dense alpha -> Factored alpha) := by
  intro x _
  unfold ofFactor
  cases zeroPivot? x with
  | none => exact ⟨rfl, rfl⟩
  | some k => exact ⟨rfl, rfl⟩

end

/-!
# Kernels in machine arithmetic
-/

theorem keepsSquare_inSingle {kernel : Dense Float32 -> Factored Float32}
    (h : KeepsSquare kernel) : KeepsSquare (inSingle kernel) := by
  intro x hsquare
  exact h (x.map Float.toFloat32) hsquare

theorem keepsSquare_unlessEmpty {kernel : Dense Float -> Factored Float}
    (h : KeepsSquare kernel) : KeepsSquare (unlessEmpty kernel) := by
  intro x hsquare
  unfold unlessEmpty
  split
  · exact ⟨rfl, rfl⟩
  · exact h x hsquare

theorem machineKernels_keepsShape : machineKernels.KeepsShape where
  factor := by
    intro p t x hsquare _
    cases p with
    | double => exact keepsSquare_unlessEmpty (Cholesky.keepsSquare_factor t) x hsquare
    | single =>
        exact keepsSquare_unlessEmpty
          (keepsSquare_inSingle (Cholesky.keepsSquare_factor t)) x hsquare
  invert := by
    intro p t x hsquare _
    cases p with
    | double => exact keepsSquare_unlessEmpty (Inverse.keepsSquare_ofFactor t) x hsquare
    | single =>
        exact keepsSquare_unlessEmpty
          (keepsSquare_inSingle (Inverse.keepsSquare_ofFactor t)) x hsquare
  values := by
    intro p vectors t x _ _
    show ((Eigen.symmetric t x).values.map p.round).size = x.rows
    unfold Eigen.symmetric
    simp
  vectors := by
    intro p t x hsquare _
    exact ⟨rfl, hsquare⟩

/-!
# Kernels in exact arithmetic

The factorizations of integer matrices, for those whose pivots have integer roots. There
is no spectrum of integers, so that the other kernels fail.
-/

instance : Arithmetic Int where
  ofCount := Int.ofNat
  sqrt x := ((List.range (x.toNat + 1)).find? fun k => k * k == x.toNat).getD 0
  abs x := x.natAbs
  less a b := decide (a < b)
  isFinite _ := true
  least := 1
  spacing := 1

instance : Measure Int where
  isNaN _ := false
  isNegative x := decide (x < 0)

def exactKernels : SerialKernels Int Int where
  factor _ := Cholesky.factor
  invert _ := Inverse.ofFactor
  eigen _ _ _ _ := ⟨#[], Dense.zeros 0 0, 1⟩
  eigenWorkspace := Eigen.workspace
  condition _ _ _ := (0, 1)

/-- Integers enter a matrix as they are. -/
def exactNumerics : Numerics Int Int Int where
  enter _ x := x
  serial := exactKernels
  norms :=
    { zero := 0
      magnitude := Arithmetic.abs
      add := Int.add
      square := fun x => x * x
      larger := max
      root := Arithmetic.sqrt }

theorem exactKernels_keepsShape : exactKernels.KeepsShape where
  factor := fun _ t x hsquare _ => Cholesky.keepsSquare_factor t x hsquare
  invert := fun _ t x hsquare _ => Inverse.keepsSquare_ofFactor t x hsquare
  values := fun _ _ _ _ _ hstatus => by cases hstatus
  vectors := fun _ _ _ _ hstatus => by cases hstatus

/-!
# The unit matrix

Its eigenvalues and its condition are integers. The kernels that know them refuse a
negative norm, which is the fifth argument of a serial estimate.
-/

def Dense.unit (order : Nat) : Dense Int :=
  Dense.ofFn order order fun i j => if i = j then 1 else 0

def Dense.isUnit (x : Dense Int) : Bool :=
  x.rows == x.cols && x.entries == (Dense.unit x.rows).entries

def unitKernels : SerialKernels Int Int where
  factor := exactKernels.factor
  invert := exactKernels.invert
  eigen _ _ _ x := ⟨Array.replicate x.rows 1, x, if x.isUnit then 0 else 1⟩
  eigenWorkspace := Eigen.workspace
  condition _ factor norm :=
    if norm < 0 then (0, -5)
    else (if factor.isUnit && norm == 1 then 1 else 0, 0)

theorem unitKernels_keepsShape : unitKernels.KeepsShape where
  factor := exactKernels_keepsShape.factor
  invert := exactKernels_keepsShape.invert
  values := fun _ _ _ _ _ _ => Array.size_replicate
  vectors := fun _ _ _ _ _ => ⟨rfl, rfl⟩

end BlockCyclic
