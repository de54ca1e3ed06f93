import BlockCyclic.Matrix.Call
import BlockCyclic.Proofs.Kernel.ExactNorm
import BlockCyclic.Proofs.Matrix.Inversion

/-!
# Norms of a distributed matrix

The processes of a grid column hold the same columns, and those of a grid row the same
rows. In exact arithmetic the sums over the blocks of a grid column are therefore sums
over whole columns of the matrix, and the greatest of them along a grid row is the norm.
-/

namespace BlockCyclic

variable {n : Nat} {delta R : Type} [CommRing R] [LinearOrder R] [IsStrictOrderedRing R]

/-!
# Sums over a block
-/

namespace Layout

variable {l : Layout n} (i : Fin l.grid.rows) (j : Fin l.grid.cols)

theorem coords_processAt :
    l.grid.coords (l.grid.processAt i j) = ((i.val : Int), (j.val : Int)) :=
  l.grid.coords_eq_iff.mpr rfl

theorem localShape_processAt :
    l.localShape (l.grid.processAt i j) =
      ((l.distribution.rowAxis.extent l.rows i.val).toNat,
        (l.distribution.colAxis.extent l.cols j.val).toNat) := by
  rw [localShape_of_active (l.grid.active_processAt i j), coords_processAt]
  rfl

omit [LinearOrder R] [IsStrictOrderedRing R] in
theorem get_piece_processAt (x : Dense R) {k c : Nat}
    (hk : k < (l.distribution.rowAxis.extent l.rows i.val).toNat)
    (hc : c < (l.distribution.colAxis.extent l.cols j.val).toNat) :
    (l.piece x (l.grid.processAt i j)).get k c =
      x.get (l.distribution.rowAxis.index i.val k).toNat
        (l.distribution.colAxis.index j.val c).toNat := by
  have hshape := localShape_processAt i j
  rw [l.get_piece x _ (by rwa [hshape]) (by rwa [hshape])]
  unfold rowIndex colIndex
  rw [coords_processAt]

omit [LinearOrder R] [IsStrictOrderedRing R] in
/-- The entries of the blocks at all grid positions are those of the matrix, each once. -/
theorem sum_places (l : Layout n) (f : Nat -> Nat -> R) :
    ∑ i : Fin l.grid.rows, ∑ j : Fin l.grid.cols,
        ∑ k ∈ Finset.range (l.distribution.rowAxis.extent l.rows i.val).toNat,
          ∑ c ∈ Finset.range (l.distribution.colAxis.extent l.cols j.val).toNat,
            f (l.distribution.rowAxis.index i.val k).toNat
              (l.distribution.colAxis.index j.val c).toNat =
      ∑ k ∈ Finset.range l.rows, ∑ c ∈ Finset.range l.cols, f k c := by
  have hcols := Axis.sum_index (R := R) l.onGrid.positive.colAxis l.onGrid.colProcs l.cols
  have hrows := Axis.sum_index l.onGrid.positive.rowAxis l.onGrid.rowProcs l.rows
    fun k => ∑ c ∈ Finset.range l.cols, f k c
  rw [← hrows]
  apply Finset.sum_congr rfl
  intro i _
  rw [Finset.sum_comm]
  exact Finset.sum_congr rfl fun k _ => hcols (f _)

end Layout

namespace NormArithmetic

variable {a : NormArithmetic R R} (h : a.Exact) {l : Layout n} (x : Dense R)
  (i : Fin l.grid.rows) (j : Fin l.grid.cols)

include h

theorem columnSums_piece :
    a.columnSums (l.piece x (l.grid.processAt i j)) =
      (Array.range (l.distribution.colAxis.extent l.cols j.val).toNat).map fun c : Nat =>
        ∑ k ∈ Finset.range (l.distribution.rowAxis.extent l.rows i.val).toNat,
          |x.get (l.distribution.rowAxis.index i.val k).toNat
            (l.distribution.colAxis.index j.val c).toNat| := by
  rw [columnSums_eq h, Layout.rows_piece, Layout.cols_piece, Layout.localShape_processAt]
  apply Array.map_congr_left
  intro c hc
  apply Finset.sum_congr rfl
  intro k hk
  rw [Layout.get_piece_processAt i j x (Finset.mem_range.mp hk) (Array.mem_range.mp hc)]

theorem rowSums_piece :
    a.rowSums (l.piece x (l.grid.processAt i j)) =
      (Array.range (l.distribution.rowAxis.extent l.rows i.val).toNat).map fun k : Nat =>
        ∑ c ∈ Finset.range (l.distribution.colAxis.extent l.cols j.val).toNat,
          |x.get (l.distribution.rowAxis.index i.val k).toNat
            (l.distribution.colAxis.index j.val c).toNat| := by
  rw [rowSums_eq h, Layout.rows_piece, Layout.cols_piece, Layout.localShape_processAt]
  apply Array.map_congr_left
  intro k hk
  apply Finset.sum_congr rfl
  intro c hc
  rw [Layout.get_piece_processAt i j x (Array.mem_range.mp hk) (Finset.mem_range.mp hc)]

theorem squareSum_piece :
    a.squareSum (l.piece x (l.grid.processAt i j)) =
      ∑ k ∈ Finset.range (l.distribution.rowAxis.extent l.rows i.val).toNat,
        ∑ c ∈ Finset.range (l.distribution.colAxis.extent l.cols j.val).toNat,
          x.get (l.distribution.rowAxis.index i.val k).toNat
            (l.distribution.colAxis.index j.val c).toNat ^ 2 := by
  rw [squareSum_eq h, Layout.rows_piece, Layout.cols_piece, Layout.localShape_processAt]
  apply Finset.sum_congr rfl
  intro k hk
  apply Finset.sum_congr rfl
  intro c hc
  rw [Layout.get_piece_processAt i j x (Finset.mem_range.mp hk) (Finset.mem_range.mp hc)]

/-!
# The norm that the grid finds
-/

variable {x} {blocks : PerProcess n (Dense R)} (hopen : l.grid.released = false)
  (hblocks : forall r, blocks.get r = l.piece x r) {r : Fin n}
  (hr : l.grid.active r = true) {v : R}

include hopen hblocks hr

theorem isGreatest_columns (hv : (a.distributed .columnSum l.grid blocks).get r = some v) :
    IsGreatest ((fun j => ∑ i ∈ Finset.range l.rows, |x.get i j|) '' Set.Iio l.cols) v := by
  have hcolumn : forall j,
      l.grid.colComm (l.grid.processAt ⟨r.val / l.grid.cols, Grid.row_lt hr⟩ j) =
        some (l.grid.colGroup j) := by
    intro j
    rw [Grid.colComm_of_active hopen (l.grid.active_processAt _ j)]
    congr 2
    exact Fin.ext (l.grid.processAt_mod _ j)
  apply isGreatest_lines h (fun j i => l.grid.processAt i j)
    (Grid.rowComm_of_active hopen hr) hcolumn l.onGrid.positive.colAxis
    l.onGrid.positive.rowAxis l.onGrid.colProcs l.onGrid.rowProcs (fun c k => |x.get k c|)
    (fun c k => abs_nonneg _) l.cols_pos _ hv
  intro j i
  rw [PerProcess.get_map, hblocks, columnSums_piece h]

theorem isGreatest_rows (hv : (a.distributed .rowSum l.grid blocks).get r = some v) :
    IsGreatest ((fun i => ∑ j ∈ Finset.range l.cols, |x.get i j|) '' Set.Iio l.rows) v := by
  have hrow : forall i,
      l.grid.rowComm (l.grid.processAt i ⟨r.val % l.grid.cols, Grid.col_lt r⟩) =
        some (l.grid.rowGroup i) := by
    intro i
    rw [Grid.rowComm_of_active hopen (l.grid.active_processAt i _)]
    congr 2
    exact Fin.ext (l.grid.processAt_div i _)
  apply isGreatest_lines h l.grid.processAt (Grid.colComm_of_active hopen hr) hrow
    l.onGrid.positive.rowAxis l.onGrid.positive.colAxis l.onGrid.rowProcs l.onGrid.colProcs
    (fun k c => |x.get k c|) (fun k c => abs_nonneg _) l.rows_pos _ hv
  intro i j
  rw [PerProcess.get_map, hblocks, rowSums_piece h]

theorem frobenius_of_pieces :
    (a.distributed .frobenius l.grid blocks).get r =
      some (a.root
        (∑ i ∈ Finset.range l.rows, ∑ j ∈ Finset.range l.cols, x.get i j ^ 2)) := by
  have hsum : (l.grid.processes.map fun s => (blocks.map a.squareSum).get s).sum =
      ∑ i ∈ Finset.range l.rows, ∑ j ∈ Finset.range l.cols, x.get i j ^ 2 := by
    rw [Grid.sum_processes]
    simp only [PerProcess.get_map, hblocks, squareSum_piece h]
    exact l.sum_places fun i j => x.get i j ^ 2
  have hsome : l.grid.processes ≠ [] := List.ne_nil_of_mem (l.grid.mem_processes.mpr hr)
  unfold distributed
  simp only
  rw [PerProcess.get_map, Communicator.get_allreduce (Grid.gridComm_of_active hopen hr),
    h.add, Communicator.combine_add hsome, hsum]
  rfl

theorem distributed_eq_serial (hrows : x.rows = l.rows) (hcols : x.cols = l.cols)
    (kind : NormKind) :
    (a.distributed kind l.grid blocks).get r = some (a.serial kind x) := by
  rcases exists_distributed (a := a) hopen kind blocks with ⟨v, hcommon⟩
  have hv := hcommon r hr
  cases kind with
  | columnSum =>
      have hserial := isGreatest_columnSum h (hcols ▸ l.cols_pos)
      rw [hrows, hcols] at hserial
      rw [hv, (isGreatest_columns h hopen hblocks hr hv).unique hserial]
  | rowSum =>
      have hserial := isGreatest_rowSum h (hrows ▸ l.rows_pos)
      rw [hrows, hcols] at hserial
      rw [hv, (isGreatest_rows h hopen hblocks hr hv).unique hserial]
  | frobenius =>
      rw [frobenius_of_pieces h hopen hblocks hr, serial_frobenius h, hrows, hcols]

end NormArithmetic

/-!
# Norms as calls
-/

namespace DistributedMatrix

variable {a : DistributedMatrix n R}

theorem result_norm {numerics : Numerics delta R R} (hexact : numerics.norms.Exact)
    (hopen : a.layout.grid.released = false) (hshaped : a.Shaped) {kind : NormKind} {r : Fin n}
    (hallowed : (a.part r).requireState (.norm kind) = .ok ()) :
    ((a.norm numerics kind).get r).result = .ok (numerics.norms.serial kind a.whole) := by
  unfold norm
  simp only
  rw [PerProcess.get_ofFn, hallowed]
  show Except.ok _ = Except.ok _
  congr 1
  apply Grid.sendToInactive_of_common hopen
  intro s hs
  rw [PerProcess.get_map, NormArithmetic.distributed_eq_serial hexact hopen
    (pieces_of_shaped hshaped) hs a.rows_whole a.cols_whole kind]
  rfl

variable [Measure R]

/--
In exact arithmetic every process, also one that is left out, finds the norm that one
process would find of the whole matrix: the greatest absolute column sum, the greatest
absolute row sum, or the root of the sum of squares. The matrix stays as it is.
-/
theorem norms_equal_serial (numerics : Numerics delta R R)
    (hexact : numerics.norms.Exact) (hopen : a.layout.grid.released = false)
    {state : State} (hstate : state = .matrix ∨ state = .inverse) {x : Dense R}
    (hstored : a.Stores state x) :
    let squares :=
      ∑ i ∈ Finset.range a.layout.rows, ∑ j ∈ Finset.range a.layout.cols, x.get i j ^ 2
    (forall kind r, ((a.perform numerics (.norm kind)).get r).result =
      .ok (.measure (numerics.norms.serial kind x))) ∧
    IsGreatest
      ((fun j => ∑ i ∈ Finset.range a.layout.rows, |x.get i j|) '' Set.Iio a.layout.cols)
      (numerics.norms.serial .columnSum x) ∧
    IsGreatest
      ((fun i => ∑ j ∈ Finset.range a.layout.cols, |x.get i j|) '' Set.Iio a.layout.rows)
      (numerics.norms.serial .rowSum x) ∧
    numerics.norms.serial .frobenius x = numerics.norms.root squares ∧
    (forall y, 0 ≤ y -> y * y = squares -> numerics.norms.serial .frobenius x = y) ∧
    (forall kind, a.next numerics (.norm kind) = a) := by
  intro squares
  have hwhole := whole_of_stores hopen hstored
  have hrows : x.rows = a.layout.rows := by rw [← hwhole, rows_whole]
  have hcols : x.cols = a.layout.cols := by rw [← hwhole, cols_whole]
  have hallowed : forall kind r, (a.part r).requireState (.norm kind) = .ok () := by
    intro kind r
    unfold Part.requireState
    rw [hstored.state r]
    rcases hstate with rfl | rfl <;> rfl
  have hcolumns := NormArithmetic.isGreatest_columnSum hexact (hcols ▸ a.layout.cols_pos)
  have hrowSums := NormArithmetic.isGreatest_rowSum hexact (hrows ▸ a.layout.rows_pos)
  have hfrobenius := NormArithmetic.serial_frobenius hexact x
  rw [hrows, hcols] at hcolumns hrowSums hfrobenius
  refine ⟨?_, hcolumns, hrowSums, hfrobenius, ?_, next_norm numerics a⟩
  · intro kind r
    unfold perform
    rw [PerProcess.get_map]
    unfold Reply.map
    rw [result_norm hexact hopen (shaped_of_stores hstored) (hallowed kind r), hwhole]
    rfl
  · intro y hy hsquares
    rw [hfrobenius]
    show numerics.norms.root squares = y
    rw [← hsquares, hexact.root y hy]

/-- Two rows on two of three processes; one norm of each kind, found by the third process. -/
theorem norms_equal_serial_two_rows :
    let l : Layout 3 :=
      { grid := ⟨2, 1, by decide, by decide, by decide, fun _ => 0, false⟩
        rows := 2, cols := 3, rowBlock := 1, colBlock := 2, precision := .double
        rows_pos := by decide, cols_pos := by decide
        rowBlock_pos := by decide, colBlock_pos := by decide }
    let x : Dense Int := Dense.ofFn 2 3 fun i j =>
      if i = 0 ∧ j = 0 then 3 else if j = 1 then -4 * (1 + 2 * i) else 0
    let a : DistributedMatrix 3 Int :=
      ⟨l, Vector.ofFn fun r => ⟨l.piece x r, .matrix, .general, .general⟩⟩
    (((a.perform exactNumerics (.norm .columnSum)).get 2).result = .ok (.measure 16)) ∧
    (((a.perform exactNumerics (.norm .rowSum)).get 2).result = .ok (.measure 12)) ∧
    (((a.perform exactNumerics (.norm .frobenius)).get 2).result = .ok (.measure 13)) := by
  intro l x a
  have hstored : a.Stores .matrix x :=
    stores_of_holds (w := ⟨x, .matrix, .general, .general⟩) rfl
      ⟨⟨rfl, rfl, (fun h => by cases h), (fun h => by cases h), (fun h => by cases h)⟩,
        fun r => PerProcess.get_ofFn _ r⟩
  have hnorms := (norms_equal_serial exactNumerics exactNumerics_exact rfl (Or.inl rfl)
    hstored).1
  have hvalues : exactNumerics.norms.serial .columnSum x = 16 ∧
      exactNumerics.norms.serial .rowSum x = 12 ∧
      exactNumerics.norms.serial .frobenius x = 13 := by decide +kernel
  rw [hnorms .columnSum 2, hnorms .rowSum 2, hnorms .frobenius 2, hvalues.1, hvalues.2.1,
    hvalues.2.2]
  exact ⟨rfl, rfl, rfl⟩

end DistributedMatrix
end BlockCyclic
