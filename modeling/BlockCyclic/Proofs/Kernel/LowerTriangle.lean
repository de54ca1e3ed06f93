import BlockCyclic.Proofs.Kernel.Exact
import BlockCyclic.Proofs.Matrix.Whole

/-!
# Kernels that read a lower triangle

A serial kernel on the lower triangle of a symmetric matrix may leave anything above the
diagonal, and what it finds there makes no difference to the rest of its result. The
factorization reads and writes the triangle column by column, and the eigensolver starts
from the symmetric matrix that the triangle determines.
-/

namespace BlockCyclic

variable {alpha beta rho : Type}

namespace Dense

/-- Matrices of one shape that differ above the diagonal at most. -/
structure SameLower [Zero alpha] (x y : Dense alpha) : Prop where
  rows : x.rows = y.rows
  cols : x.cols = y.cols
  entries : forall i j, i < x.rows -> j < x.cols -> j ≤ i -> x.get i j = y.get i j

namespace SameLower

variable [Zero alpha] {x y : Dense alpha}

theorem get_eq (h : x.SameLower y) {i j : Nat} (hle : j ≤ i) : x.get i j = y.get i j := by
  by_cases hinside : i < x.rows ∧ j < x.cols
  · exact h.entries i j hinside.1 hinside.2 hle
  · have houtside : ¬ (i < y.rows ∧ j < y.cols) := by
      rw [← h.rows, ← h.cols]
      exact hinside
    rw [get_outside x hinside, get_outside y houtside]

theorem mapPlaces (h : x.SameLower y) {f g : Nat -> Nat -> alpha -> alpha}
    (hsame : forall i j, j ≤ i -> f i j (x.get i j) = g i j (y.get i j)) :
    (x.mapPlaces f).SameLower (y.mapPlaces g) where
  rows := h.rows
  cols := h.cols
  entries := by
    intro i j _ _ hle
    rw [get_mapPlaces, get_mapPlaces, h.rows, h.cols, hsame i j hle]

theorem map [Zero beta] (h : x.SameLower y) (f : alpha -> beta) :
    (x.map f).SameLower (y.map f) where
  rows := h.rows
  cols := h.cols
  entries := by
    intro i j hi hj hle
    change i < x.rows at hi
    change j < x.cols at hj
    rw [get_map f x hi hj, get_map f y (h.rows ▸ hi) (h.cols ▸ hj), h.get_eq hle]

theorem lowerPart_eq (h : x.SameLower y) : x.lowerPart = y.lowerPart := by
  apply ext_get
  · exact h.rows
  · exact h.cols
  · intro i j hi hj
    change i < x.rows at hi
    change j < x.cols at hj
    rw [get_lowerPart hi hj, get_lowerPart (h.rows ▸ hi) (h.cols ▸ hj)]
    by_cases habove : i < j
    · rw [if_pos habove, if_pos habove]
    · rw [if_neg habove, if_neg habove, h.get_eq (Nat.le_of_not_lt habove)]

end SameLower
end Dense

/--
What lies above the diagonal of a square matrix makes no difference to the statuses of the
factorization and of the eigensolver, to the lower triangle of the factor, and to the
spectrum; what they leave above the diagonal is anything.
-/
structure SerialKernels.ReadsLower [Zero alpha] (k : SerialKernels alpha rho) : Prop where
  factor : forall p x y, x.rows = x.cols -> x.SameLower y ->
    (k.factor p .lower x).status = (k.factor p .lower y).status ∧
      ((k.factor p .lower x).status = 0 ->
        (k.factor p .lower x).matrix.SameLower (k.factor p .lower y).matrix)
  eigen : forall p vectors x y, x.rows = x.cols -> x.SameLower y ->
    (k.eigen p vectors .lower x).status = (k.eigen p vectors .lower y).status ∧
      ((k.eigen p vectors .lower x).status = 0 ->
        (k.eigen p vectors .lower x).values = (k.eigen p vectors .lower y).values ∧
          (vectors = true ->
            (k.eigen p vectors .lower x).vectors = (k.eigen p vectors .lower y).vectors))

def OnLowerTriangle [Zero alpha] (kernel : Dense alpha -> Factored alpha) : Prop :=
  forall x y, x.SameLower y -> (kernel x).status = (kernel y).status ∧
    (kernel x).matrix.SameLower (kernel y).matrix

/-!
# Factorization by columns
-/

namespace Cholesky

variable [Zero alpha] [One alpha] [Sub alpha] [Mul alpha] [Div alpha] [Arithmetic alpha]
  {x y : Dense alpha}

omit [One alpha] [Sub alpha] [Div alpha] [Arithmetic alpha] in
theorem getD_column (h : x.SameLower y) {i k : Nat} (hle : k ≤ i) (scale : alpha) :
    ((Array.range x.rows).map fun i => x.get i k * scale).getD i 0 =
      ((Array.range y.rows).map fun i => y.get i k * scale).getD i 0 := by
  rw [h.rows]
  by_cases hi : i < y.rows
  · simp [Array.getD_eq_getD_getElem?, hi, h.get_eq hle]
  · simp [Array.getD_eq_getD_getElem?, hi]

omit [Arithmetic alpha] in
/-- In a step no entry of the triangle takes anything from above the diagonal. -/
theorem sameLower_eliminate (h : x.SameLower y) (k : Nat) (root : alpha) :
    (eliminate x k root).SameLower (eliminate y k root) := by
  unfold eliminate
  apply h.mapPlaces
  intro i j hle
  by_cases hcolumn : j = k
  · rw [if_pos hcolumn, if_pos hcolumn]
    by_cases hbelow : k < i
    · rw [if_pos hbelow, if_pos hbelow, getD_column h (Nat.le_of_lt hbelow)]
    · rw [if_neg hbelow, if_neg hbelow, h.get_eq hle]
  · rw [if_neg hcolumn, if_neg hcolumn]
    by_cases hright : k < j ∧ j ≤ i
    · have hrow : k ≤ i := Nat.le_trans (Nat.le_of_lt hright.1) hright.2
      rw [if_pos hright, if_pos hright, getD_column h hrow,
        getD_column h (Nat.le_of_lt hright.1), h.get_eq hle]
    · rw [if_neg hright, if_neg hright, h.get_eq hle]

/-- The pivots are on the diagonal, so that both factorizations stop at the same one. -/
theorem onLowerTriangle_columns (steps k : Nat) :
    OnLowerTriangle (columns steps k : Dense alpha -> Factored alpha) := by
  induction steps generalizing k with
  | zero => exact fun x y h => ⟨rfl, h⟩
  | succ steps ih =>
      intro x y h
      unfold columns
      simp only
      rw [h.get_eq (Nat.le_refl k)]
      split
      · exact ih (k + 1) _ _ (sameLower_eliminate h k _)
      · exact ⟨rfl, h⟩

theorem onLowerTriangle_factor :
    OnLowerTriangle (factor .lower : Dense alpha -> Factored alpha) := by
  intro x y h
  show (columns x.cols 0 x).status = (columns y.cols 0 y).status ∧
    (columns x.cols 0 x).matrix.SameLower (columns y.cols 0 y).matrix
  rw [h.cols]
  exact onLowerTriangle_columns y.cols 0 x y h

end Cholesky

/-!
# The spectrum of a triangle
-/

namespace Eigen

theorem symmetricRows_congr {x y : Dense Float} (h : x.SameLower y) :
    symmetricRows .lower x = symmetricRows .lower y := by
  unfold symmetricRows
  rw [h.rows]
  congr 1
  funext i
  congr 1
  funext j
  cases hcontains : Triangle.lower.contains i j with
  | true =>
      have hle : j ≤ i := of_decide_eq_true hcontains
      rw [if_pos rfl, if_pos rfl, h.get_eq hle]
  | false =>
      have hlt : ¬ j ≤ i := of_decide_eq_false hcontains
      rw [if_neg Bool.false_ne_true, if_neg Bool.false_ne_true,
        h.get_eq (Nat.le_of_not_le hlt)]

theorem symmetric_congr {x y : Dense Float} (h : x.SameLower y) :
    symmetric .lower x = symmetric .lower y := by
  unfold symmetric
  rw [symmetricRows_congr h, h.rows]

end Eigen

/-!
# Kernels in machine arithmetic
-/

theorem onLowerTriangle_inSingle {kernel : Dense Float32 -> Factored Float32}
    (hkernel : OnLowerTriangle kernel) : OnLowerTriangle (inSingle kernel) := by
  intro x y h
  rcases hkernel _ _ (h.map Float.toFloat32) with ⟨hstatus, hmatrix⟩
  exact ⟨hstatus, hmatrix.map Float32.toFloat⟩

theorem onLowerTriangle_unlessEmpty {kernel : Dense Float -> Factored Float}
    (hkernel : OnLowerTriangle kernel) : OnLowerTriangle (unlessEmpty kernel) := by
  intro x y h
  unfold unlessEmpty
  rw [h.rows]
  split
  · exact ⟨rfl, h⟩
  · exact hkernel x y h

theorem machineKernels_readsLower : machineKernels.ReadsLower where
  factor := by
    intro p x y _ h
    have hfactor : OnLowerTriangle (machineKernels.factor p .lower) := by
      cases p with
      | double => exact onLowerTriangle_unlessEmpty Cholesky.onLowerTriangle_factor
      | single =>
          exact onLowerTriangle_unlessEmpty
            (onLowerTriangle_inSingle Cholesky.onLowerTriangle_factor)
    rcases hfactor x y h with ⟨hstatus, hmatrix⟩
    exact ⟨hstatus, fun _ => hmatrix⟩
  eigen := by
    intro p vectors x y _ h
    have hsame : machineKernels.eigen p vectors .lower x =
        machineKernels.eigen p vectors .lower y := by
      unfold machineKernels
      simp only
      rw [Eigen.symmetric_congr h]
    rw [hsame]
    exact ⟨rfl, fun _ => ⟨rfl, fun _ => rfl⟩⟩

/-!
# Kernels in exact arithmetic
-/

/-- The kernels that know the unit matrix, looking at the lower triangle for it. -/
def unitLowerKernels : SerialKernels Int Int :=
  { unitKernels with
    eigen := fun p vectors t x => unitKernels.eigen p vectors t x.lowerPart }

theorem unitLowerKernels_keepsShape : unitLowerKernels.KeepsShape where
  factor := unitKernels_keepsShape.factor
  invert := unitKernels_keepsShape.invert
  values := fun _ _ _ _ _ _ => Array.size_replicate
  vectors := fun _ _ _ _ _ => ⟨rfl, rfl⟩

theorem unitLowerKernels_readsLower : unitLowerKernels.ReadsLower where
  factor := fun _ x y _ h => by
    rcases Cholesky.onLowerTriangle_factor x y h with ⟨hstatus, hmatrix⟩
    exact ⟨hstatus, fun _ => hmatrix⟩
  eigen := fun p vectors x y _ h => by
    have hsame : unitLowerKernels.eigen p vectors .lower x =
        unitLowerKernels.eigen p vectors .lower y :=
      congrArg (unitKernels.eigen p vectors .lower) h.lowerPart_eq
    rw [hsame]
    exact ⟨rfl, fun _ => ⟨rfl, fun _ => rfl⟩⟩

end BlockCyclic
