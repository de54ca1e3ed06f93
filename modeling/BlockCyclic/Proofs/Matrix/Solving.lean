import BlockCyclic.Proofs.Kernel.Condition
import BlockCyclic.Proofs.Kernel.Eigen
import BlockCyclic.Proofs.Matrix.Factoring

/-!
# Eigenproblem and condition of whole matrices

All processes receive the eigenvalues and the condition estimate of the whole matrix, and
the eigenvectors, where they are wanted, become the whole matrix.
-/

namespace BlockCyclic

variable {n : Nat} {delta alpha rho : Type} [Zero alpha]

/-!
# Effects
-/

namespace Part

def eigenEffect (numerics : Numerics delta alpha rho) (p : Precision) (w : Part alpha)
    (vectors : Bool) : Effect alpha (Array alpha) :=
  let spectrum := numerics.serial.eigen p vectors .lower w.block
  .guarded w (w.requireSymmetric .eigen)
    (if spectrum.status ≠ 0 then .refuse w (.numerical ⟨"syev", spectrum.status⟩)
    else
      { part := DistributedMatrix.solvedPart w vectors true spectrum.vectors
        result := .ok spectrum.values })

/-- The condition of the content, which is a factor, and the norm of what was factored. -/
def conditionEffect [Zero rho] [Measure rho] (numerics : Numerics delta alpha rho)
    (p : Precision) (w : Part alpha) (norm : rho) : Effect alpha rho :=
  let outcome := if Measure.isNorm norm then
      numerics.serial.condition p w.block.transpose norm
    else (0, -4)
  .guarded w (w.requireState .condition)
    (if outcome.2 ≠ 0 then .refuse w (.numerical ⟨"pocon", outcome.2⟩)
    else ⟨w, .ok outcome.1⟩)

omit [Zero alpha] in
theorem fits_eigenEffect {numerics : Numerics delta alpha rho}
    (hshape : numerics.serial.KeepsShape) {w : Part alpha} {m k : Nat} (h : w.Fits m k)
    (p : Precision) (vectors : Bool) :
    (w.eigenEffect numerics p vectors).part.Fits m k := by
  unfold eigenEffect
  apply fits_guarded h
  intro hallowed
  have hsquare := h.symmetric (symmetric_of_requireSymmetric hallowed)
  by_cases hstatus : (numerics.serial.eigen p vectors .lower w.block).status = 0
  · rw [if_neg (not_not_intro hstatus)]
    cases hvectors : vectors with
    | true =>
        rw [hvectors] at hstatus
        have hkeeps := hshape.vectors p .lower w.block
          (by rw [h.rows, h.cols, hsquare]) hstatus
        exact
          { rows := hkeeps.1.trans h.rows
            cols := hkeeps.2.trans h.cols
            symmetric := fun hproperty => by cases hproperty
            freshSymmetric := h.freshSymmetric
            cholesky := fun hstate => by cases hstate }
    | false =>
        exact
          { rows := h.rows
            cols := h.cols
            symmetric := h.symmetric
            freshSymmetric := h.freshSymmetric
            cholesky := fun hstate => by cases hstate }
  · rw [if_pos hstatus]
    exact h

theorem part_conditionEffect [Zero rho] [Measure rho] (numerics : Numerics delta alpha rho)
    (p : Precision) (w : Part alpha) (norm : rho) :
    (w.conditionEffect numerics p norm).part = w := by
  unfold conditionEffect Effect.guarded
  cases w.requireState .condition with
  | error failure => rfl
  | ok _ =>
      generalize (if Measure.isNorm norm then
          numerics.serial.condition p w.block.transpose norm
        else (0, -4)) = outcome
      by_cases hstatus : outcome.2 = 0
      · simp only
        rw [if_neg (not_not_intro hstatus)]
      · simp only
        rw [if_pos hstatus]
        rfl

end Part

/-!
# What the processes do
-/

namespace DistributedMatrix

variable {a : DistributedMatrix n alpha} {w : Part alpha}
  {numerics : Numerics delta alpha rho}

theorem values_eigenArgs (query : WorkspaceQuery) (a : DistributedMatrix n alpha)
    (vectors : Bool) (r : Fin n) :
    ((a.eigenArgs query vectors).get r).values =
      Array.replicate (min a.layout.rows a.layout.cols) 0 := by
  unfold eigenArgs
  rw [PerProcess.get_ofFn]

theorem legal_eigenVectors (query : WorkspaceQuery) (a : DistributedMatrix n alpha) :
    a.layout.grid.Legal a.layout.precision a.layout.distribution
      ((a.eigenArgs query true).map EigenArgs.vectors) := by
  apply Layout.legal_operands
  · intro r
    unfold eigenArgs
    rw [PerProcess.get_map, PerProcess.get_ofFn]
  · intro r
    unfold eigenArgs
    rw [PerProcess.get_map, PerProcess.get_ofFn]
    rfl
  · intro r
    unfold eigenArgs
    rw [PerProcess.get_map, PerProcess.get_ofFn]
    rfl

omit [Zero alpha] in
theorem legal_operand (h : a.Shaped) {operands : PerProcess n (Operand alpha)}
    (hoperands : forall r, operands.get r = a.operand r) :
    a.layout.grid.Legal a.layout.precision a.layout.distribution operands := by
  apply Layout.legal_operands
  · intro r
    rw [hoperands r]
    rfl
  · intro r
    rw [hoperands r]
    exact (h r).1
  · intro r
    rw [hoperands r]
    exact (h r).2

theorem assembleOperands_operand {operands : PerProcess n (Operand alpha)}
    (hoperands : forall r, operands.get r = a.operand r) :
    a.layout.grid.assembleOperands a.layout.distribution operands = a.whole := by
  have hblocks : operands.map Operand.block = a.blocks := by
    apply PerProcess.ext
    intro r
    rw [PerProcess.get_map, hoperands r, get_blocks_eq]
    rfl
  unfold Grid.assembleOperands whole
  rw [hblocks]

theorem operand_eigenArgs (query : WorkspaceQuery) (a : DistributedMatrix n alpha)
    (vectors : Bool) (r : Fin n) :
    ((a.eigenArgs query vectors).map EigenArgs.operand).get r = a.operand r := by
  unfold eigenArgs
  rw [PerProcess.get_map, PerProcess.get_ofFn]

theorem legal_eigenArgs (query : WorkspaceQuery) (h : a.Shaped)
    (hsquare : a.layout.rows = a.layout.cols) (vectors : Bool) :
    EigenArgs.Legal query a.layout.grid a.layout.precision a.layout.distribution vectors .lower
      (a.eigenArgs query vectors) where
  operands := legal_operand h (operand_eigenArgs query a vectors)
  square := congrArg Int.ofNat hsquare
  jobz := by
    intro r _
    unfold eigenArgs
    rw [PerProcess.get_ofFn]
  uplo := by
    intro r _
    unfold eigenArgs
    rw [PerProcess.get_ofFn]
    rfl
  values := by
    intro r _
    rw [values_eigenArgs, Array.size_replicate, ← hsquare, Nat.min_self]
    exact Int.le_of_eq (congrArg Int.ofNat hsquare.symm)
  targets := by
    intro hvectors
    subst hvectors
    exact ⟨_, legal_eigenVectors query a⟩
  workspace := by
    intro r _
    unfold eigenArgs
    rw [PerProcess.get_ofFn]
    exact ⟨Int.le_refl _, Int.le_refl _⟩

section

variable (hopen : a.layout.grid.released = false) (h : a.Shaped)
  (hsquare : a.layout.rows = a.layout.cols) {vectors : Bool} {spectrum : Spectrum alpha}
  (hserial : numerics.serial.eigen a.layout.precision vectors .lower a.whole = spectrum)

include hopen h hsquare hserial

theorem status_eigen (r : Fin n) :
    (a.layout.shareStatuses ((Kernel.eigen numerics.serial a.layout.grid a.layout.precision
      (a.eigenArgs numerics.serial.eigenWorkspace vectors)).map EigenResult.status)).get r =
        spectrum.status := by
  rw [← assembleOperands_operand
    (operand_eigenArgs numerics.serial.eigenWorkspace a vectors)] at hserial
  apply Grid.shareStatuses_of_common hopen
  intro s hs
  rw [PerProcess.get_map,
    Kernel.status_eigen_of_legal hopen (legal_eigenArgs _ h hsquare vectors) hserial hs]

theorem values_eigen (hstatus : spectrum.status = 0)
    (hsize : spectrum.values.size = a.layout.rows) (r : Fin n) :
    (a.layout.grid.sendBufferToInactive ((Kernel.eigen numerics.serial
      a.layout.grid a.layout.precision (a.eigenArgs numerics.serial.eigenWorkspace vectors)).map
        EigenResult.values)).get r = spectrum.values := by
  rw [← assembleOperands_operand
    (operand_eigenArgs numerics.serial.eigenWorkspace a vectors)] at hserial
  -- The buffer of a process has room for all eigenvalues, which leave nothing of it.
  have hbuffer : (Array.replicate (min a.layout.rows a.layout.cols) (0 : alpha)).size ≤
      spectrum.values.size := by
    rw [Array.size_replicate, hsize]
    exact Nat.min_le_left _ _
  apply Grid.sendBufferToInactive_of_common hopen
  · intro s hs
    rw [PerProcess.get_map, Kernel.values_eigen_of_legal hopen
        (legal_eigenArgs _ h hsquare vectors) hserial hstatus hs,
      values_eigenArgs, values_eigenArgs, Communicator.overwrite_of_size_le hbuffer,
      Communicator.overwrite_of_size_le hbuffer]
  · intro s hs
    rw [PerProcess.get_map, Kernel.values_eigen_of_inactive hs, values_eigenArgs]
    exact hbuffer

theorem part_eigen (hstatus : spectrum.status = 0)
    (hkeeps : vectors = true ->
      spectrum.vectors.rows = a.layout.rows ∧ spectrum.vectors.cols = a.layout.cols)
    (r : Fin n) :
    solvedPart (w.piece a.layout r) vectors (a.layout.grid.active r)
        ((Kernel.eigen numerics.serial a.layout.grid a.layout.precision
          (a.eigenArgs numerics.serial.eigenWorkspace vectors)).get r).vectors =
      (solvedPart w vectors true spectrum.vectors).piece a.layout r := by
  have hlegal := legal_eigenArgs numerics.serial.eigenWorkspace h hsquare vectors
  rw [← assembleOperands_operand
    (operand_eigenArgs numerics.serial.eigenWorkspace a vectors)] at hserial
  cases hvectors : vectors with
  | false => rfl
  | true =>
      subst hvectors
      have hshape := hkeeps rfl
      unfold solvedPart Part.piece
      simp only [if_true]
      congr 1
      cases hr : a.layout.grid.active r with
      | true =>
          rw [if_pos rfl, Kernel.vectors_eigen_of_legal hopen hlegal hserial hstatus rfl
              (legal_eigenVectors _ a) (congrArg Int.ofNat hshape.1)
              (congrArg Int.ofNat hshape.2) hr,
            a.layout.piece_of_active _ hr]
      | false =>
          rw [if_neg Bool.false_ne_true]
          exact a.layout.eq_piece_of_inactive _ hr (a.layout.rows_piece _ r)
            (a.layout.cols_piece _ r)

end

theorem shows_eigen (hopen : a.layout.grid.released = false) (h : a.Holds w)
    (hshape : numerics.serial.KeepsShape) (vectors : Bool) (r : Fin n) :
    ((a.eigen numerics vectors).get r).Shows a.layout r
      (w.eigenEffect numerics a.layout.precision vectors) := by
  unfold eigen Part.eigenEffect
  rw [PerProcess.get_ofFn]
  refine shows_guarded h (fun p => p.requireSymmetric .eigen) r rfl ?_
  intro hallowed
  have hsquare := h.fits.symmetric (Part.symmetric_of_requireSymmetric hallowed)
  have hshaped := shaped_of_holds h
  generalize hserial :
    numerics.serial.eigen a.layout.precision vectors .lower w.block = spectrum
  have hwhole : numerics.serial.eigen a.layout.precision vectors .lower a.whole =
      spectrum := by
    rw [whole_of_holds h, hserial]
  rw [status_eigen hopen hshaped hsquare hwhole r]
  by_cases hstatus : spectrum.status = 0
  · rw [if_neg (not_not_intro hstatus), if_neg (not_not_intro hstatus)]
    have horder : w.block.rows = w.block.cols := by rw [h.fits.rows, h.fits.cols, hsquare]
    have hsize := hshape.values a.layout.precision vectors .lower w.block horder
      (by rw [hserial, hstatus])
    rw [hserial, h.fits.rows] at hsize
    have hkeeps : vectors = true ->
        spectrum.vectors.rows = a.layout.rows ∧ spectrum.vectors.cols = a.layout.cols := by
      rintro rfl
      have hvectors := hshape.vectors a.layout.precision .lower w.block horder
        (by rw [hserial, hstatus])
      rwa [hserial, h.fits.rows, h.fits.cols] at hvectors
    rw [values_eigen hopen hshaped hsquare hwhole hstatus hsize r]
    refine ⟨?_, rfl⟩
    show solvedPart (a.part r) vectors (a.layout.grid.active r) _ = _
    rw [h.parts r]
    exact part_eigen hopen hshaped hsquare hwhole hstatus hkeeps r
  · rw [if_pos hstatus, if_pos hstatus]
    apply shows_failed h
    rw [h.parts r]
    rfl

omit [Zero alpha] in
theorem operand_conditionArgs (a : DistributedMatrix n alpha) (norm : PerProcess n rho)
    (r : Fin n) :
    ((a.conditionArgs norm).map ConditionArgs.operand).get r = a.operand r := by
  unfold conditionArgs
  rw [PerProcess.get_map, PerProcess.get_ofFn]

omit [Zero alpha] in
theorem norm_conditionArgs (a : DistributedMatrix n alpha) (norm : PerProcess n rho)
    (r : Fin n) : ((a.conditionArgs norm).get r).norm = norm.get r := by
  unfold conditionArgs
  rw [PerProcess.get_ofFn]

omit [Zero alpha] in
theorem legal_conditionArgs (h : a.Shaped) (hsquare : a.layout.rows = a.layout.cols)
    (norm : PerProcess n rho) :
    ConditionArgs.Legal a.layout.grid a.layout.precision a.layout.distribution
      (a.conditionArgs norm) where
  operands := legal_operand h (operand_conditionArgs a norm)
  square := congrArg Int.ofNat hsquare
  uplo := by
    intro r _
    unfold conditionArgs
    rw [PerProcess.get_ofFn]
    rfl
  workspace := by
    intro r _
    unfold conditionArgs
    rw [PerProcess.get_ofFn]
    exact ⟨Int.le_refl _, Int.le_refl _⟩

theorem shows_condition [Zero rho] [Measure rho]
    (hopen : a.layout.grid.released = false) (h : a.Holds w)
    {norm : PerProcess n rho} {value : rho}
    (hnorm : forall r, a.layout.grid.active r = true -> norm.get r = value) (r : Fin n) :
    ((a.condition numerics norm).get r).Shows a.layout r
      (w.conditionEffect numerics a.layout.precision value) := by
  unfold condition Part.conditionEffect
  rw [PerProcess.get_ofFn]
  refine shows_guarded h (fun p => p.requireState .condition) r rfl ?_
  intro hallowed
  have hsquare := h.fits.cholesky (Part.cholesky_of_requireState hallowed rfl)
  have hlegal := legal_conditionArgs (shaped_of_holds h) hsquare norm
  have hwhole := (assembleOperands_operand (operand_conditionArgs a norm)).trans
    (whole_of_holds h)
  generalize houtcome : (if Measure.isNorm value then
      numerics.serial.condition a.layout.precision w.block.transpose value
    else (0, -4)) = outcome
  have hshared : (a.layout.grid.sendToInactive ((Kernel.condition numerics.serial
      a.layout.grid a.layout.precision (a.conditionArgs norm)).map
        fun c => c.outcome.getD (0, 0))).get r = outcome := by
    apply Grid.sendToInactive_of_common hopen
    intro s hs
    rw [PerProcess.get_map]
    cases hmeasure : Measure.isNorm value with
    | true =>
        rw [Kernel.outcome_condition_of_legal hopen hlegal
            (fun q hq => by rw [norm_conditionArgs, hnorm q hq, hmeasure]) hs,
          hwhole, norm_conditionArgs, hnorm _ a.layout.grid.active_first, ← houtcome,
          hmeasure]
        unfold ConditionArgs.upperFactor conditionArgs
        rw [PerProcess.get_ofFn]
        rfl
    | false =>
        have hrefused : Measure.isNorm
            ((a.conditionArgs norm).get a.layout.grid.first).norm = false := by
          rw [norm_conditionArgs, hnorm _ a.layout.grid.active_first, hmeasure]
        rw [Kernel.outcome_condition_of_refused hopen hlegal a.layout.grid.active_first
            hrefused hs, ← houtcome, hmeasure]
        rfl
  rw [hshared]
  by_cases hstatus : outcome.2 = 0
  · rw [if_neg (not_not_intro hstatus), if_neg (not_not_intro hstatus)]
    exact ⟨h.parts r, rfl⟩
  · rw [if_pos hstatus, if_pos hstatus]
    apply shows_failed h
    rw [h.parts r]
    rfl

end DistributedMatrix
end BlockCyclic
