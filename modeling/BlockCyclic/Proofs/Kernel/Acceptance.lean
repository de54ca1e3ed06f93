import BlockCyclic.Proofs.Kernel.Condition
import BlockCyclic.Proofs.Kernel.Exact

/-!
# Serial kernels accept legal arguments

A negative status of a serial kernel points at an illegal argument. On a square matrix with
rows there is none, so that a factorization may fail but does not complain, and the
estimate of a condition from a legal norm cannot even fail.
-/

namespace BlockCyclic

variable {alpha rho : Type}

/-- On legal arguments statuses are not negative, and that of the condition estimate is zero. -/
structure SerialKernels.AcceptsLegal [Measure rho] (k : SerialKernels alpha rho) : Prop where
  factor : forall p t x, 0 < x.rows -> x.rows = x.cols -> 0 ≤ (k.factor p t x).status
  invert : forall p t x, 0 < x.rows -> x.rows = x.cols -> 0 ≤ (k.invert p t x).status
  eigen : forall p vectors t x, 0 < x.rows -> x.rows = x.cols ->
    0 ≤ (k.eigen p vectors t x).status
  condition : forall p x norm, 0 < x.rows -> x.rows = x.cols ->
    Measure.isNorm norm = true -> (k.condition p x norm).2 = 0

section

variable [Zero alpha] [One alpha] [Add alpha] [Sub alpha] [Mul alpha] [Div alpha]
  [Neg alpha] [Arithmetic alpha]

omit [Add alpha] [Neg alpha] in
theorem Cholesky.status_columns_nonneg (steps k : Nat) (x : Dense alpha) :
    0 ≤ (columns steps k x).status := by
  induction steps generalizing k x with
  | zero => exact Int.le_refl 0
  | succ steps ih =>
      unfold columns
      simp only
      split
      · exact ih (k + 1) _
      · exact Int.natCast_nonneg (k + 1)

omit [Add alpha] [Neg alpha] in
theorem Cholesky.status_factor_nonneg (t : Triangle) (x : Dense alpha) :
    0 ≤ (factor t x).status := by
  cases t with
  | lower => exact status_columns_nonneg x.cols 0 x
  | upper => exact status_columns_nonneg x.transpose.cols 0 x.transpose

omit [Sub alpha] in
theorem Inverse.status_ofFactor_nonneg (t : Triangle) (x : Dense alpha) :
    0 ≤ (ofFactor t x).status := by
  unfold ofFactor
  cases zeroPivot? x with
  | none => exact Int.le_refl 0
  | some k => exact Int.natCast_nonneg k

end

theorem nonneg_unlessEmpty {kernel : Dense Float -> Factored Float} {x : Dense Float}
    (hrows : 0 < x.rows) (h : 0 ≤ (kernel x).status) : 0 ≤ (unlessEmpty kernel x).status := by
  unfold unlessEmpty
  rw [if_neg (Nat.ne_of_gt hrows)]
  exact h

theorem machineKernels_acceptsLegal : machineKernels.AcceptsLegal where
  factor := by
    intro p t x hrows _
    cases p with
    | double => exact nonneg_unlessEmpty hrows (Cholesky.status_factor_nonneg t x)
    | single =>
        apply nonneg_unlessEmpty hrows
        exact Cholesky.status_factor_nonneg t (x.map Float.toFloat32)
  invert := by
    intro p t x hrows _
    cases p with
    | double => exact nonneg_unlessEmpty hrows (Inverse.status_ofFactor_nonneg t x)
    | single =>
        apply nonneg_unlessEmpty hrows
        exact Inverse.status_ofFactor_nonneg t (x.map Float.toFloat32)
  eigen := by
    intro p vectors t x _ _
    show 0 ≤ (Eigen.symmetric t x).status
    unfold Eigen.symmetric
    simp only
    split
    · exact Int.le_refl 0
    · exact Int.zero_le_ofNat 1
  condition := by
    intro p x norm hrows _ _
    unfold machineKernels
    simp only
    rw [if_neg (Nat.ne_of_gt hrows)]
    cases p with
    | double => rfl
    | single => rfl

theorem unitKernels_acceptsLegal : unitKernels.AcceptsLegal where
  factor := fun _ t x _ _ => Cholesky.status_factor_nonneg t x
  invert := fun _ t x _ _ => Inverse.status_ofFactor_nonneg t x
  eigen := by
    intro p vectors t x _ _
    unfold unitKernels
    simp only
    split
    · exact Int.le_refl 0
    · exact Int.zero_le_ofNat 1
  condition := by
    intro p x norm _ _ hnorm
    have hnonneg : ¬ norm < 0 := by
      intro hneg
      unfold Measure.isNorm at hnorm
      have hmeasure : Measure.isNegative norm = true := decide_eq_true hneg
      rw [hmeasure, Bool.or_true] at hnorm
      cases hnorm
    unfold unitKernels
    simp only
    rw [if_neg hnonneg]

end BlockCyclic
