import BlockCyclic.Matrix.Layout
import BlockCyclic.Proofs.Kernel.Factor

/-!
# Pieces of a laid out matrix

A process of the grid holds the rows and the columns that the layout deals to it, and a
process that is left out holds nothing. Both are the restriction of the whole matrix to the
indices of the process.
-/

namespace BlockCyclic

variable {n : Nat} {alpha : Type}

namespace Layout

variable (l : Layout n)

theorem onGrid : l.distribution.OnGrid l.grid.rows l.grid.cols :=
  Distribution.atOrigin_onGrid (Int.natCast_pos.mpr l.rowBlock_pos)
    (Int.natCast_pos.mpr l.colBlock_pos) l.grid.rows_pos l.grid.cols_pos

theorem rows_distribution : l.distribution.rows.toNat = l.rows :=
  Int.toNat_natCast l.rows

theorem cols_distribution : l.distribution.cols.toNat = l.cols :=
  Int.toNat_natCast l.cols

theorem meaning_descriptor (r : Fin n) :
    (l.descriptor r).distribution l.grid.shape = l.distribution :=
  rfl

theorem accepts_descriptor (r : Fin n) : l.grid.accepts r (l.descriptor r) = true := by
  unfold Grid.accepts descriptor Descriptor.create
  simp only [beq_self_eq_true, Bool.and_self]

/-!
# Indices of a process
-/

variable {l}

theorem localShape_of_active {r : Fin n} (hr : l.grid.active r = true) :
    l.localShape r =
      ((l.distribution.localShape (l.grid.coords r).1 (l.grid.coords r).2).1.toNat,
        (l.distribution.localShape (l.grid.coords r).1 (l.grid.coords r).2).2.toNat) := by
  unfold localShape
  rw [if_pos hr]

theorem localShape_of_inactive {r : Fin n} (hr : l.grid.active r = false) :
    l.localShape r = (0, 0) := by
  unfold localShape
  rw [hr]
  rfl

variable (l)

@[simp] theorem size_rows_indices (r : Fin n) :
    (l.indices r).rows.size = (l.localShape r).1 := by
  unfold indices
  rw [Array.size_map, Array.size_range]

@[simp] theorem size_cols_indices (r : Fin n) :
    (l.indices r).cols.size = (l.localShape r).2 := by
  unfold indices
  rw [Array.size_map, Array.size_range]

theorem getD_rows_indices (r : Fin n) {i : Nat} (hi : i < (l.localShape r).1) :
    (l.indices r).rows.getD i 0 = (l.rowIndex r i).toNat := by
  unfold indices
  simp [Array.getD_eq_getD_getElem?, hi]

theorem getD_cols_indices (r : Fin n) {j : Nat} (hj : j < (l.localShape r).2) :
    (l.indices r).cols.getD j 0 = (l.colIndex r j).toNat := by
  unfold indices
  simp [Array.getD_eq_getD_getElem?, hj]

theorem rowIndex_nonneg (r : Fin n) (i : Nat) : 0 ≤ l.rowIndex r i :=
  Axis.index_nonneg l.onGrid.positive.rowAxis _ (Int.natCast_nonneg i)

theorem colIndex_nonneg (r : Fin n) (j : Nat) : 0 ≤ l.colIndex r j :=
  Axis.index_nonneg l.onGrid.positive.colAxis _ (Int.natCast_nonneg j)

theorem rowIndex_lt (r : Fin n) {i : Nat} (hi : i < (l.localShape r).1) :
    (l.rowIndex r i).toNat < l.rows := by
  cases hr : l.grid.active r with
  | false =>
      rw [localShape_of_inactive hr] at hi
      cases hi
  | true =>
      rw [localShape_of_active hr] at hi
      have hextent : (i : Int) < l.distribution.rowAxis.extent l.rows (l.grid.coords r).1 :=
        Int.lt_toNat.mp hi
      have hindex := (Axis.lt_extent_iff l.onGrid.positive.rowAxis _ _ _).mp hextent
      have hnonneg := l.rowIndex_nonneg r i
      exact (Int.toNat_lt hnonneg).mpr hindex

theorem colIndex_lt (r : Fin n) {j : Nat} (hj : j < (l.localShape r).2) :
    (l.colIndex r j).toNat < l.cols := by
  cases hr : l.grid.active r with
  | false =>
      rw [localShape_of_inactive hr] at hj
      cases hj
  | true =>
      rw [localShape_of_active hr] at hj
      have hextent : (j : Int) < l.distribution.colAxis.extent l.cols (l.grid.coords r).2 :=
        Int.lt_toNat.mp hj
      have hindex := (Axis.lt_extent_iff l.onGrid.positive.colAxis _ _ _).mp hextent
      have hnonneg := l.colIndex_nonneg r j
      exact (Int.toNat_lt hnonneg).mpr hindex

theorem indices_of_active {r : Fin n} (hr : l.grid.active r = true) :
    l.indices r = l.distribution.memberRegion r.val := by
  have hcoords := Grid.coords_of_active hr
  have hshape := localShape_of_active hr
  unfold indices Distribution.memberRegion rowIndex colIndex
  rw [hshape, l.onGrid.colProcs, hcoords, Distribution.region_eq, Axis.places_eq_map,
    Axis.places_eq_map]
  rfl

/-!
# Restriction to the indices of a process
-/

variable [Zero alpha]

def piece (x : Dense alpha) (r : Fin n) : Dense alpha :=
  x.restrict (l.indices r)

@[simp] theorem rows_piece (x : Dense alpha) (r : Fin n) :
    (l.piece x r).rows = (l.localShape r).1 :=
  l.size_rows_indices r

@[simp] theorem cols_piece (x : Dense alpha) (r : Fin n) :
    (l.piece x r).cols = (l.localShape r).2 :=
  l.size_cols_indices r

theorem get_piece (x : Dense alpha) (r : Fin n) {i j : Nat} (hi : i < (l.localShape r).1)
    (hj : j < (l.localShape r).2) :
    (l.piece x r).get i j = x.get (l.rowIndex r i).toNat (l.colIndex r j).toNat := by
  unfold piece
  rw [Dense.get_restrict x _ (by rwa [size_rows_indices]) (by rwa [size_cols_indices]),
    l.getD_rows_indices r hi, l.getD_cols_indices r hj]

theorem piece_of_active (x : Dense alpha) {r : Fin n} (hr : l.grid.active r = true) :
    l.piece x r = Grid.cut l.distribution x r := by
  unfold piece Grid.cut
  rw [l.indices_of_active hr]

theorem eq_piece {block x : Dense alpha} {r : Fin n}
    (hrows : block.rows = (l.localShape r).1) (hcols : block.cols = (l.localShape r).2)
    (hget : forall i j, i < (l.localShape r).1 -> j < (l.localShape r).2 ->
      block.get i j = x.get (l.rowIndex r i).toNat (l.colIndex r j).toNat) :
    block = l.piece x r := by
  have hsameRows : block.rows = (l.piece x r).rows := by rw [hrows, rows_piece]
  have hsameCols : block.cols = (l.piece x r).cols := by rw [hcols, cols_piece]
  apply Dense.ext_get hsameRows hsameCols
  intro i j hi hj
  rw [hrows] at hi
  rw [hcols] at hj
  rw [hget i j hi hj, l.get_piece x r hi hj]

/-- A process that is left out holds nothing, so that all its pieces are equal. -/
theorem eq_piece_of_inactive {block : Dense alpha} (x : Dense alpha) {r : Fin n}
    (hr : l.grid.active r = false) (hrows : block.rows = (l.localShape r).1)
    (hcols : block.cols = (l.localShape r).2) :
    block = l.piece x r := by
  apply l.eq_piece hrows hcols
  intro i j hi _
  rw [localShape_of_inactive hr] at hi
  cases hi

theorem mapPlaces_piece (f : Nat -> Nat -> alpha -> alpha) {x : Dense alpha}
    (hrows : x.rows = l.rows) (hcols : x.cols = l.cols) (r : Fin n) :
    (l.piece x r).mapPlaces
        (fun i j => f (l.rowIndex r i).toNat (l.colIndex r j).toNat) =
      l.piece (x.mapPlaces f) r := by
  apply l.eq_piece
  · rw [Dense.rows_mapPlaces, rows_piece]
  · rw [Dense.cols_mapPlaces, cols_piece]
  · intro i j hi hj
    have hinside : (l.rowIndex r i).toNat < x.rows ∧ (l.colIndex r j).toNat < x.cols := by
      rw [hrows, hcols]
      exact ⟨l.rowIndex_lt r hi, l.colIndex_lt r hj⟩
    rw [Dense.get_mapPlaces, rows_piece, cols_piece, if_pos ⟨hi, hj⟩,
      l.get_piece x r hi hj, Dense.get_mapPlaces, if_pos hinside]

/-!
# Pieces on a grid
-/

variable {l} {blocks : PerProcess n (Dense alpha)} {x : Dense alpha}

theorem holdsPieces_of_pieces (h : forall r, blocks.get r = l.piece x r) :
    l.grid.HoldsPieces l.distribution blocks := by
  intro r hr
  rw [h r, l.piece_of_active x hr]
  exact Grid.memberShape_cut x r

/-- Blocks of the right shapes are the pieces of one matrix. -/
theorem eq_piece_assemble
    (hrows : forall r, (blocks.get r).rows = (l.localShape r).1)
    (hcols : forall r, (blocks.get r).cols = (l.localShape r).2) (r : Fin n) :
    blocks.get r = l.piece (l.grid.assemble l.distribution blocks) r := by
  have hpieces : l.grid.HoldsPieces l.distribution blocks := by
    intro s hs
    have hshape := Grid.memberShape_cut (d := l.distribution) (Dense.zeros 0 0 : Dense alpha) s
    rw [← l.piece_of_active _ hs] at hshape
    exact ⟨(hrows s).trans ((l.rows_piece _ s).symm.trans hshape.1),
      (hcols s).trans ((l.cols_piece _ s).symm.trans hshape.2)⟩
  cases hr : l.grid.active r with
  | true => rw [l.piece_of_active _ hr, Grid.cut_assemble l.onGrid hpieces hr]
  | false => exact l.eq_piece_of_inactive _ hr (hrows r) (hcols r)

theorem assemble_pieces (hrows : x.rows = l.rows) (hcols : x.cols = l.cols)
    (h : forall r, blocks.get r = l.piece x r) :
    l.grid.assemble l.distribution blocks = x := by
  apply Grid.assemble_cut l.onGrid
  · rw [hrows, rows_distribution]
  · rw [hcols, cols_distribution]
  · intro r hr
    rw [h r, l.piece_of_active x hr]

/-- Scattering a matrix of the right shape over pieces leaves its pieces on all processes. -/
theorem get_scatter_pieces (hopen : l.grid.released = false)
    (h : forall r, blocks.get r = l.piece x r)
    {source : PerProcess n (Option (Dense alpha))} {whole : Dense alpha}
    (hsource : source.get l.grid.first = some whole) (hrows : whole.rows = l.rows)
    (hcols : whole.cols = l.cols) (r : Fin n) :
    (l.grid.gridComm.scatter l.grid.shape 0 (fun _ => l.blockSizes) source blocks).get r =
      l.piece whole r := by
  have hlayout : Distribution.atOrigin (whole.rows, whole.cols) l.blockSizes l.grid.shape =
      l.distribution := by
    rw [hrows, hcols]
    rfl
  cases hr : l.grid.active r with
  | true =>
      rw [Grid.get_scatter hopen hsource hlayout (holdsPieces_of_pieces h) hr,
        l.piece_of_active whole hr]
  | false =>
      rw [Grid.get_scatter_of_inactive hr]
      apply l.eq_piece_of_inactive whole hr
      · rw [h r, rows_piece]
      · rw [h r, cols_piece]

omit [Zero alpha] in
theorem legal_operands {operands : PerProcess n (Operand alpha)}
    (h : forall r, operands.get r =
      ⟨.ofPrecision l.precision, (operands.get r).block, l.descriptor r⟩)
    (hrows : forall r, (operands.get r).block.rows = (l.localShape r).1)
    (hcols : forall r, (operands.get r).block.cols = (l.localShape r).2) :
    l.grid.Legal l.precision l.distribution operands where
  onGrid := l.onGrid
  accepted := fun r _ => by
    rw [h r]
    exact l.accepts_descriptor r
  fitting := fun r hr => by
    have hrowsR := hrows r
    have hcolsR := hcols r
    rw [localShape_of_active hr] at hrowsR hcolsR
    have hrowExtent := Axis.extent_nonneg l.onGrid.positive.rowAxis
      (Int.natCast_nonneg l.rows) (l.grid.coords r).1
    have hcolExtent := Axis.extent_nonneg l.onGrid.positive.colAxis
      (Int.natCast_nonneg l.cols) (l.grid.coords r).2
    unfold Grid.blockFits Grid.localExtent
    rw [h r]
    simp only [l.meaning_descriptor r, beq_self_eq_true, Bool.and_true, Bool.and_eq_true,
      beq_iff_eq]
    constructor
    · rw [hrowsR]
      exact Int.toNat_of_nonneg hrowExtent
    · rw [hcolsR]
      exact Int.toNat_of_nonneg hcolExtent
  meaning := fun r _ => by
    rw [h r]
    exact l.meaning_descriptor r

end Layout
end BlockCyclic
