import BlockCyclic.Proofs.Kernel.Exact
import BlockCyclic.Proofs.Kernel.Factor
import BlockCyclic.Proofs.Matrix.Whole

/-!
# Factorization and inversion of whole matrices

The factor is the lower part of what the serial kernel makes of the whole matrix, and the
inverse is completed from its lower triangle. Local masks cut both out piece by piece.
-/

namespace BlockCyclic

variable {n : Nat} {delta alpha rho : Type} [Zero alpha]

/-!
# Masks over pieces
-/

namespace Layout

variable (l : Layout n)

omit [Zero alpha] in
theorem aboveDiagonal_iff (r : Fin n) (i j : Nat) :
    l.aboveDiagonal r i j = true ↔
      (l.rowIndex r i).toNat < (l.colIndex r j).toNat := by
  have hrow := l.rowIndex_nonneg r i
  have hcol := l.colIndex_nonneg r j
  unfold aboveDiagonal
  rw [decide_eq_true_iff]
  omega

theorem clearAbove_piece {x : Dense alpha} (hrows : x.rows = l.rows)
    (hcols : x.cols = l.cols) (r : Fin n) :
    l.clearAbove r (l.piece x r) = l.piece x.lowerPart r := by
  unfold clearAbove
  cases hr : l.grid.active r with
  | false =>
      exact l.eq_piece_of_inactive _ hr (l.rows_piece x r) (l.cols_piece x r)
  | true =>
      unfold Dense.lowerPart
      rw [if_pos rfl, ← l.mapPlaces_piece _ hrows hcols r]
      congr 1
      funext i j value
      exact if_congr (l.aboveDiagonal_iff r i j) rfl rfl

theorem mergeAbove_piece {x : Dense alpha} (hrows : x.rows = l.rows)
    (hcols : x.cols = l.cols) (hsquare : l.rows = l.cols) {r : Fin n}
    (hr : l.grid.active r = true) :
    l.mergeAbove r (l.piece x r) (l.piece x.transpose r) = l.piece x.mirrored r := by
  unfold mergeAbove
  rw [if_pos hr]
  apply l.eq_piece
  · rw [Dense.rows_mapPlaces, rows_piece]
  · rw [Dense.cols_mapPlaces, cols_piece]
  · intro i j hi hj
    have hrow := l.rowIndex_lt r hi
    have hcol := l.colIndex_lt r hj
    have hinside : (l.rowIndex r i).toNat < x.rows ∧ (l.colIndex r j).toNat < x.cols := by
      rw [hrows, hcols]
      exact ⟨hrow, hcol⟩
    have hturned : (l.rowIndex r i).toNat < x.cols ∧ (l.colIndex r j).toNat < x.rows := by
      rw [hrows, hcols, ← hsquare]
      refine ⟨hrow, ?_⟩
      rw [hsquare]
      exact hcol
    have hother : x.transpose.get (l.rowIndex r i).toNat (l.colIndex r j).toNat =
        x.get (l.colIndex r j).toNat (l.rowIndex r i).toNat :=
      Dense.get_transpose x hturned.1 hturned.2
    unfold Dense.mirrored
    rw [Dense.get_mapPlaces, rows_piece, cols_piece, if_pos ⟨hi, hj⟩,
      l.get_piece _ r hi hj, l.get_piece _ r hi hj, Dense.get_mapPlaces, if_pos hinside,
      hother]
    by_cases habove : (l.rowIndex r i).toNat < (l.colIndex r j).toNat
    · rw [if_pos habove, if_pos ((l.aboveDiagonal_iff r i j).mpr habove)]
    · rw [if_neg habove, if_neg (mt (l.aboveDiagonal_iff r i j).mp habove)]

end Layout

/-!
# Effects
-/

namespace Part

omit [Zero alpha] in
theorem state_of_requireState {w : Part alpha} {operation : Operation}
    (h : w.requireState operation = .ok ()) : w.state ∈ operation.states := by
  unfold requireState at h
  cases hstate : operation.states.contains w.state with
  | true => exact List.contains_iff_mem.mp hstate
  | false =>
      rw [hstate] at h
      cases h

omit [Zero alpha] in
theorem cholesky_of_requireState {w : Part alpha} {operation : Operation}
    (h : w.requireState operation = .ok ()) (hstates : operation.states = [.cholesky]) :
    w.state = .cholesky := by
  have hstate := state_of_requireState h
  rw [hstates] at hstate
  exact List.mem_singleton.mp hstate

omit [Zero alpha] in
theorem symmetric_of_requireSymmetric {w : Part alpha} {operation : Operation}
    (h : w.requireSymmetric operation = .ok ()) : w.property = .symmetric := by
  unfold requireSymmetric requireProperty at h
  cases hstate : w.requireState operation with
  | error failure =>
      rw [hstate] at h
      cases h
  | ok _ =>
      rw [hstate] at h
      by_cases hproperty : w.property = .symmetric
      · exact hproperty
      · change (if w.property = .symmetric then _ else _) = _ at h
        rw [if_neg hproperty] at h
        cases h

def choleskyEffect (numerics : Numerics delta alpha rho) (p : Precision) (w : Part alpha) :
    Effect alpha Unit :=
  let factored := numerics.serial.factor p .lower w.block
  .guarded w (w.requireSymmetric .cholesky)
    (if factored.status ≠ 0 then .refuse w (.numerical ⟨"potrf", factored.status⟩)
    else
      { part :=
          { w with
            block := factored.matrix.lowerPart
            state := .cholesky
            property := .lowerTriangular }
        result := .ok () })

def invertEffect (numerics : Numerics delta alpha rho) (p : Precision) (w : Part alpha) :
    Effect alpha Unit :=
  let inverted := numerics.serial.invert p .lower w.block
  .guarded w (w.requireState .inversion)
    (if inverted.status ≠ 0 then .refuse w (.numerical ⟨"potri", inverted.status⟩)
    else
      { part :=
          { w with
            block := inverted.matrix.mirrored
            state := .inverse
            property := .symmetric }
        result := .ok () })

variable {numerics : Numerics delta alpha rho} (hshape : numerics.serial.KeepsShape)

include hshape

theorem fits_choleskyEffect {w : Part alpha} {m k : Nat} (h : w.Fits m k)
    (p : Precision) : (w.choleskyEffect numerics p).part.Fits m k := by
  unfold choleskyEffect
  apply fits_guarded h
  intro hallowed
  have hsquare := h.symmetric (symmetric_of_requireSymmetric hallowed)
  by_cases hstatus : (numerics.serial.factor p .lower w.block).status = 0
  · have hkeeps := hshape.factor p .lower w.block
      (by rw [h.rows, h.cols, hsquare]) hstatus
    rw [if_neg (not_not_intro hstatus)]
    exact
      { rows := hkeeps.1.trans h.rows
        cols := hkeeps.2.trans h.cols
        symmetric := fun hproperty => by cases hproperty
        freshSymmetric := h.freshSymmetric
        cholesky := fun _ => hsquare }
  · rw [if_pos hstatus]
    exact h

theorem fits_invertEffect {w : Part alpha} {m k : Nat} (h : w.Fits m k)
    (p : Precision) : (w.invertEffect numerics p).part.Fits m k := by
  unfold invertEffect
  apply fits_guarded h
  intro hallowed
  have hsquare := h.cholesky (cholesky_of_requireState hallowed rfl)
  by_cases hstatus : (numerics.serial.invert p .lower w.block).status = 0
  · have hkeeps := hshape.invert p .lower w.block
      (by rw [h.rows, h.cols, hsquare]) hstatus
    rw [if_neg (not_not_intro hstatus)]
    exact
      { rows := hkeeps.1.trans h.rows
        cols := hkeeps.2.trans h.cols
        symmetric := fun _ => hsquare
        freshSymmetric := h.freshSymmetric
        cholesky := fun hstate => by cases hstate }
  · rw [if_pos hstatus]
    exact h

end Part

/-!
# What the processes do
-/

namespace DistributedMatrix

variable {a : DistributedMatrix n alpha} {w : Part alpha}
  {numerics : Numerics delta alpha rho}

section

variable {blocks : PerProcess n (Dense alpha)} {x : Dense alpha}
  (hblocks : forall r, blocks.get r = a.layout.piece x r)

include hblocks

theorem legal_lowerArgs :
    a.layout.grid.Legal a.layout.precision a.layout.distribution
      ((a.lowerArgs blocks).map TriangleArgs.operand) := by
  apply Layout.legal_operands
  · intro r
    unfold lowerArgs
    rw [PerProcess.get_map, PerProcess.get_ofFn]
  · intro r
    unfold lowerArgs
    rw [PerProcess.get_map, PerProcess.get_ofFn, hblocks r, Layout.rows_piece]
  · intro r
    unfold lowerArgs
    rw [PerProcess.get_map, PerProcess.get_ofFn, hblocks r, Layout.cols_piece]

theorem assembleOperands_lowerArgs (hrows : x.rows = a.layout.rows)
    (hcols : x.cols = a.layout.cols) :
    a.layout.grid.assembleOperands a.layout.distribution
      ((a.lowerArgs blocks).map TriangleArgs.operand) = x := by
  apply Layout.assemble_pieces hrows hcols
  intro r
  unfold lowerArgs
  rw [PerProcess.get_map, PerProcess.get_map, PerProcess.get_ofFn, hblocks r]

end

omit [Zero alpha] in
theorem uplo_lowerArgs (a : DistributedMatrix n alpha) (blocks : PerProcess n (Dense alpha))
    (r : Fin n) :
    Triangle.ofLetter? ((a.lowerArgs blocks).get r).uplo = some .lower := by
  unfold lowerArgs
  rw [PerProcess.get_ofFn]
  rfl

omit [Zero alpha] in
theorem block_lowerArgs (a : DistributedMatrix n alpha)
    (blocks : PerProcess n (Dense alpha)) (r : Fin n) :
    ((a.lowerArgs blocks).get r).operand.block = blocks.get r := by
  unfold lowerArgs
  rw [PerProcess.get_ofFn]

section

variable (hopen : a.layout.grid.released = false) (routine : String)
  {serial : Triangle -> Dense alpha -> Factored alpha}
  {blocks : PerProcess n (Dense alpha)} {x : Dense alpha}
  (hblocks : forall r, blocks.get r = a.layout.piece x r)
  (hrows : x.rows = a.layout.rows) (hcols : x.cols = a.layout.cols)
  (hsquare : a.layout.rows = a.layout.cols) {factored : Factored alpha}
  (hserial : serial .lower x = factored)

include hopen hblocks hrows hcols hsquare hserial

theorem status_onTriangle (r : Fin n) :
    (a.layout.shareStatuses
      ((Kernel.onTriangle routine serial a.layout.grid a.layout.precision
        (a.lowerArgs blocks)).map KernelResult.status)).get r = factored.status := by
  have hwhole := assembleOperands_lowerArgs hblocks hrows hcols
  rw [← hwhole] at hserial
  apply Grid.shareStatuses_of_common hopen
  intro s hs
  rw [PerProcess.get_map,
    Kernel.status_onTriangle_of_legal routine hopen (legal_lowerArgs hblocks)
      (congrArg Int.ofNat hsquare) (fun q _ => uplo_lowerArgs a blocks q) hserial hs]

theorem block_onTriangle_of_success (hstatus : factored.status = 0)
    (hsameRows : factored.matrix.rows = x.rows) (hsameCols : factored.matrix.cols = x.cols)
    (r : Fin n) :
    ((Kernel.onTriangle routine serial a.layout.grid a.layout.precision
      (a.lowerArgs blocks)).get r).block = a.layout.piece factored.matrix r := by
  cases hr : a.layout.grid.active r with
  | true =>
      have hwhole := assembleOperands_lowerArgs hblocks hrows hcols
      rw [← hwhole] at hserial
      rw [Kernel.block_onTriangle_of_legal routine hopen (legal_lowerArgs hblocks)
          (congrArg Int.ofNat hsquare) (fun q _ => uplo_lowerArgs a blocks q) hserial
          hstatus (congrArg Int.ofNat (hsameRows.trans hrows))
          (congrArg Int.ofNat (hsameCols.trans hcols)) hr,
        a.layout.piece_of_active _ hr]
  | false =>
      rw [Kernel.block_onTriangle_of_inactive routine hr, block_lowerArgs, hblocks r]
      exact a.layout.eq_piece_of_inactive _ hr (a.layout.rows_piece x r)
        (a.layout.cols_piece x r)

theorem block_onTriangle_of_failure (hstatus : factored.status ≠ 0) (r : Fin n) :
    ((Kernel.onTriangle routine serial a.layout.grid a.layout.precision
      (a.lowerArgs blocks)).get r).block = blocks.get r := by
  cases hr : a.layout.grid.active r with
  | true =>
      have hwhole := assembleOperands_lowerArgs hblocks hrows hcols
      rw [← hwhole] at hserial
      rw [Kernel.block_onTriangle_of_failure routine hopen (legal_lowerArgs hblocks)
          (congrArg Int.ofNat hsquare) (fun q _ => uplo_lowerArgs a blocks q) hserial
          hstatus hr, block_lowerArgs]
  | false =>
      rw [Kernel.block_onTriangle_of_inactive routine hr, block_lowerArgs]

end

theorem shows_failed {beta : Type} (h : a.Holds w) {r : Fin n} {block : Dense alpha}
    (hblock : block = a.layout.piece w.block r) (routine : String) (status : Int)
    (log : List Event) :
    (a.failed r block routine status log : Reply alpha beta).Shows a.layout r
      (.refuse w (.numerical ⟨routine, status⟩)) := by
  unfold failed Reply.Shows
  rw [h.parts r, hblock]
  exact ⟨rfl, rfl⟩

theorem shows_cholesky (hopen : a.layout.grid.released = false) (h : a.Holds w)
    (hshape : numerics.serial.KeepsShape) (r : Fin n) :
    ((a.cholesky numerics).get r).Shows a.layout r
      (w.choleskyEffect numerics a.layout.precision) := by
  unfold cholesky Part.choleskyEffect
  rw [PerProcess.get_ofFn]
  refine shows_guarded h (fun p => p.requireSymmetric .cholesky) r rfl ?_
  intro hallowed
  have hsquare := h.fits.symmetric (Part.symmetric_of_requireSymmetric hallowed)
  generalize hserial : numerics.serial.factor a.layout.precision .lower w.block = factored
  have hshared := status_onTriangle hopen "potrf" (get_blocks h) h.fits.rows h.fits.cols
    hsquare hserial r
  unfold Kernel.factor
  rw [hshared]
  by_cases hstatus : factored.status = 0
  · have hkeeps := hshape.factor a.layout.precision .lower w.block
      (by rw [h.fits.rows, h.fits.cols, hsquare]) (by rw [hserial, hstatus])
    rw [hserial] at hkeeps
    have hblock := block_onTriangle_of_success hopen "potrf" (get_blocks h) h.fits.rows
      h.fits.cols hsquare hserial hstatus hkeeps.1 hkeeps.2 r
    rw [if_neg (not_not_intro hstatus), if_neg (not_not_intro hstatus)]
    unfold Reply.Shows Part.piece
    rw [hblock, a.layout.clearAbove_piece (hkeeps.1.trans h.fits.rows)
      (hkeeps.2.trans h.fits.cols) r, h.parts r]
    exact ⟨rfl, rfl⟩
  · have hblock := block_onTriangle_of_failure hopen "potrf" (get_blocks h) h.fits.rows
      h.fits.cols hsquare hserial hstatus r
    rw [if_pos hstatus, if_pos hstatus]
    apply shows_failed h
    rw [hblock, get_blocks h r]

/-!
# Completing an inverse
-/

section

variable {blocks : PerProcess n (Dense alpha)} {x : Dense alpha}
  (hblocks : forall r, blocks.get r = a.layout.piece x r)

include hblocks

theorem legal_transposeArgs_source :
    a.layout.grid.Legal a.layout.precision a.layout.distribution
      ((a.transposeArgs blocks).map TransposeArgs.source) := by
  apply Layout.legal_operands
  · intro r
    unfold transposeArgs
    rw [PerProcess.get_map, PerProcess.get_ofFn]
  · intro r
    unfold transposeArgs
    rw [PerProcess.get_map, PerProcess.get_ofFn, hblocks r, Layout.rows_piece]
  · intro r
    unfold transposeArgs
    rw [PerProcess.get_map, PerProcess.get_ofFn, hblocks r, Layout.cols_piece]

theorem legal_transposeArgs_target :
    a.layout.grid.Legal a.layout.precision a.layout.distribution
      ((a.transposeArgs blocks).map TransposeArgs.target) := by
  apply Layout.legal_operands
  · intro r
    unfold transposeArgs
    rw [PerProcess.get_map, PerProcess.get_ofFn]
  · intro r
    unfold transposeArgs
    rw [PerProcess.get_map, PerProcess.get_ofFn, Dense.rows_zeros, hblocks r,
      Layout.rows_piece]
  · intro r
    unfold transposeArgs
    rw [PerProcess.get_map, PerProcess.get_ofFn, Dense.cols_zeros, hblocks r,
      Layout.cols_piece]

theorem assembleOperands_transposeArgs (hrows : x.rows = a.layout.rows)
    (hcols : x.cols = a.layout.cols) :
    a.layout.grid.assembleOperands a.layout.distribution
      ((a.transposeArgs blocks).map TransposeArgs.source) = x := by
  apply Layout.assemble_pieces hrows hcols
  intro r
  unfold transposeArgs
  rw [PerProcess.get_map, PerProcess.get_map, PerProcess.get_ofFn, hblocks r]

theorem status_transpose (hopen : a.layout.grid.released = false)
    (hsquare : a.layout.rows = a.layout.cols) {r : Fin n}
    (hr : a.layout.grid.active r = true) :
    ((Kernel.transpose a.layout.grid a.layout.precision
      (a.transposeArgs blocks)).get r).status = some 0 :=
  Kernel.status_transpose_of_legal hopen (legal_transposeArgs_source hblocks)
    (legal_transposeArgs_target hblocks) (congrArg Int.ofNat hsquare)
    (congrArg Int.ofNat hsquare.symm) hr

theorem block_transpose (hopen : a.layout.grid.released = false)
    (hsquare : a.layout.rows = a.layout.cols) (hrows : x.rows = a.layout.rows)
    (hcols : x.cols = a.layout.cols) {r : Fin n} (hr : a.layout.grid.active r = true) :
    ((Kernel.transpose a.layout.grid a.layout.precision
      (a.transposeArgs blocks)).get r).block = a.layout.piece x.transpose r := by
  rw [Kernel.block_transpose_of_legal hopen (legal_transposeArgs_source hblocks)
      (legal_transposeArgs_target hblocks) (congrArg Int.ofNat hsquare)
      (congrArg Int.ofNat hsquare.symm)
      ⟨Int.natCast_nonneg a.layout.rows, Int.natCast_nonneg a.layout.cols⟩ hr,
    assembleOperands_transposeArgs hblocks hrows hcols, a.layout.piece_of_active _ hr]

theorem status_turned (hopen : a.layout.grid.released = false)
    (hsquare : a.layout.rows = a.layout.cols) (r : Fin n) :
    (a.layout.shareStatuses ((Kernel.transpose a.layout.grid a.layout.precision
      (a.transposeArgs blocks)).map KernelResult.status)).get r = 0 := by
  apply Grid.shareStatuses_of_common hopen
  intro s hs
  rw [PerProcess.get_map, status_transpose hblocks hopen hsquare hs]

/-- What a process merges from the transpose makes its block a piece of the whole inverse. -/
theorem block_merged (hopen : a.layout.grid.released = false)
    (hsquare : a.layout.rows = a.layout.cols) (hrows : x.rows = a.layout.rows)
    (hcols : x.cols = a.layout.cols) (r : Fin n) :
    (if ((Kernel.transpose a.layout.grid a.layout.precision
        (a.transposeArgs blocks)).get r).status = some 0 then
      a.layout.mergeAbove r (blocks.get r) ((Kernel.transpose a.layout.grid
        a.layout.precision (a.transposeArgs blocks)).get r).block
    else blocks.get r) = a.layout.piece x.mirrored r := by
  cases hr : a.layout.grid.active r with
  | true =>
      rw [if_pos (status_transpose hblocks hopen hsquare hr), hblocks r,
        block_transpose hblocks hopen hsquare hrows hcols hr]
      exact a.layout.mergeAbove_piece hrows hcols hsquare hr
  | false =>
      -- A process that is left out gets no status, but it has nothing to merge either.
      have hkept : a.layout.mergeAbove r (blocks.get r) ((Kernel.transpose
          a.layout.grid a.layout.precision (a.transposeArgs blocks)).get r).block =
            blocks.get r := by
        unfold Layout.mergeAbove
        rw [hr]
        rfl
      rw [hkept, ite_self, hblocks r]
      exact a.layout.eq_piece_of_inactive _ hr (a.layout.rows_piece _ r)
        (a.layout.cols_piece _ r)

end

theorem shows_invert (hopen : a.layout.grid.released = false) (h : a.Holds w)
    (hshape : numerics.serial.KeepsShape) (r : Fin n) :
    ((a.invert numerics).get r).Shows a.layout r
      (w.invertEffect numerics a.layout.precision) := by
  unfold invert Part.invertEffect
  rw [PerProcess.get_ofFn]
  refine shows_guarded h (fun p => p.requireState .inversion) r rfl ?_
  intro hallowed
  have hsquare := h.fits.cholesky (Part.cholesky_of_requireState hallowed rfl)
  generalize hserial : numerics.serial.invert a.layout.precision .lower w.block = inverted
  have hshared := status_onTriangle hopen "potri" (get_blocks h) h.fits.rows h.fits.cols
    hsquare hserial r
  unfold Kernel.invert
  rw [hshared]
  by_cases hstatus : inverted.status = 0
  · have hkeeps := hshape.invert a.layout.precision .lower w.block
      (by rw [h.fits.rows, h.fits.cols, hsquare]) (by rw [hserial, hstatus])
    rw [hserial] at hkeeps
    have hrows := hkeeps.1.trans h.fits.rows
    have hcols := hkeeps.2.trans h.fits.cols
    generalize hblocks : (Kernel.onTriangle "potri"
      (numerics.serial.invert a.layout.precision) a.layout.grid a.layout.precision
        (a.lowerArgs a.blocks)).map KernelResult.block = blocks
    have hpieces : forall s, blocks.get s = a.layout.piece inverted.matrix s := by
      intro s
      rw [← hblocks, PerProcess.get_map]
      exact block_onTriangle_of_success hopen "potri" (get_blocks h) h.fits.rows
        h.fits.cols hsquare hserial hstatus hkeeps.1 hkeeps.2 s
    rw [status_turned hpieces hopen hsquare r, if_neg (not_not_intro hstatus),
      if_neg (not_not_intro rfl), if_neg (not_not_intro hstatus)]
    unfold Reply.Shows Part.piece
    rw [block_merged hpieces hopen hsquare hrows hcols r, h.parts r]
    exact ⟨rfl, rfl⟩
  · have hblock := block_onTriangle_of_failure hopen "potri" (get_blocks h) h.fits.rows
      h.fits.cols hsquare hserial hstatus r
    rw [if_pos hstatus, if_pos hstatus]
    apply shows_failed h
    rw [PerProcess.get_map, hblock, get_blocks h r]

end DistributedMatrix
end BlockCyclic
