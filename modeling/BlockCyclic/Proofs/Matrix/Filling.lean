import BlockCyclic.Proofs.Kernel.Exact
import BlockCyclic.Proofs.Matrix.Legality
import BlockCyclic.Proofs.Matrix.Loading

/-!
# Filling from a function of the indices

Every process evaluates the function on the indices that it holds, and stretches what it
gets to the shape of its block. A matrix on the first process takes another way: it is cut
into the regions of all processes there and scattered. Where the function stretches to the
entries of that matrix, both ways leave the same on every process.
-/

namespace BlockCyclic

variable {n : Nat} {delta alpha rho : Type}

/-!
# Entries by row and column
-/

structure Sheet.Lists (s : Sheet delta) (rows cols : Nat) (x : Nat -> Nat -> delta) : Prop where
  real : s.isReal rows cols = true
  entries : forall i, i < rows -> forall j, j < cols ->
    s.entries[i * cols + j]? = some (x i j)

namespace Region

def table (enter : delta -> alpha) (region : Region) (x : Nat -> Nat -> delta) : Dense alpha :=
  Dense.ofFn region.rows.size region.cols.size fun i j =>
    enter (x (region.rows.getD i 0) (region.cols.getD j 0))

/-- One entry for all indices. -/
def single (t : ElementType) (c : delta) (_ : Region) : Sheet delta :=
  ⟨[], t, #[c]⟩

/-- One entry for each row, as a column. -/
def column (t : ElementType) (f : Nat -> delta) (region : Region) : Sheet delta :=
  ⟨[region.rows.size, 1], t, region.rows.map f⟩

/-- One entry for each column, as a row. -/
def row (t : ElementType) (f : Nat -> delta) (region : Region) : Sheet delta :=
  ⟨[1, region.cols.size], t, region.cols.map f⟩

end Region

section

variable [Zero alpha]

/-- What the function returns stretches to the entries at the indices of each process. -/
def Layout.Yields (numerics : Numerics delta alpha rho) (l : Layout n)
    (f : Region -> Except Failure (Sheet delta)) (x : Nat -> Nat -> delta) : Prop :=
  forall r, l.grid.active r = true -> exists values, f (l.indices r) = .ok values ∧
    values.stretch? (numerics.enter l.precision) (l.indices r).rows.size
      (l.indices r).cols.size = some ((l.indices r).table (numerics.enter l.precision) x)

/-!
# Shapes that stretch to a region
-/

theorem Dense.ofFn_congr {m k : Nat} {f g : Nat -> Nat -> alpha}
    (h : forall i j, i < m -> j < k -> f i j = g i j) : ofFn m k f = ofFn m k g := by
  apply ext_get
  · rfl
  · rfl
  · intro i j hi hj
    change i < m at hi
    change j < k at hj
    rw [get_ofFn, get_ofFn, h i j hi hj]

namespace Sheet

theorem stretches_self (k : Nat) : stretches k k = true := by
  unfold stretches
  rw [beq_self_eq_true, Bool.true_or]

theorem stretches_one (k : Nat) : stretches 1 k = true := by
  unfold stretches
  rw [beq_self_eq_true, Bool.or_true]

theorem stretch?_of_stretches (enter : delta -> alpha) {s : Sheet delta} {l k rows cols : Nat}
    (hdims : s.dims = [l, k]) (hrows : stretches l rows = true)
    (hcols : stretches k cols = true) :
    s.stretch? enter rows cols =
      some (Dense.ofFn rows cols fun i j =>
        s.entryAt enter (stretched l i * k + stretched k j)) := by
  unfold stretch?
  rw [hdims]
  simp only
  rw [hrows, hcols]
  rfl

end Sheet

namespace Region

variable (enter : delta -> alpha) (t : ElementType) (region : Region)

theorem stretch?_tabulate (x : Nat -> Nat -> delta) :
    (region.tabulate t x).stretch? enter region.rows.size region.cols.size =
      some (region.table enter x) := by
  have hdims : (region.tabulate t x).dims = [region.rows.size, region.cols.size] := rfl
  have hentries : (region.tabulate t x).toDense enter region.rows.size region.cols.size =
      region.table enter x :=
    Dense.ofFn_congr fun i j hi hj => entryAt_tabulate enter t x region hi hj
  rw [Sheet.stretch?_of_dims enter hdims, hentries]

theorem stretch?_single (c : delta) :
    (region.single t c).stretch? enter region.rows.size region.cols.size =
      some (region.table enter fun _ _ => c) :=
  rfl

theorem stretch?_column (f : Nat -> delta) :
    (region.column t f).stretch? enter region.rows.size region.cols.size =
      some (region.table enter fun i _ => f i) := by
  have hdims : (region.column t f).dims = [region.rows.size, 1] := rfl
  rw [Sheet.stretch?_of_stretches enter hdims (Sheet.stretches_self _) (Sheet.stretches_one _),
    Option.some.injEq]
  apply Dense.ofFn_congr
  intro i j hi hj
  rw [Sheet.stretched_of_lt hi]
  unfold column Sheet.stretched Sheet.entryAt
  simp [hi]

theorem stretch?_row (f : Nat -> delta) :
    (region.row t f).stretch? enter region.rows.size region.cols.size =
      some (region.table enter fun _ j => f j) := by
  have hdims : (region.row t f).dims = [1, region.cols.size] := rfl
  rw [Sheet.stretch?_of_stretches enter hdims (Sheet.stretches_one _) (Sheet.stretches_self _),
    Option.some.injEq]
  apply Dense.ofFn_congr
  intro i j hi hj
  rw [Sheet.stretched_of_lt hj]
  unfold row Sheet.stretched Sheet.entryAt
  simp [hj]

end Region

/-!
# Functions that yield a matrix
-/

namespace Layout

variable {numerics : Numerics delta alpha rho} (l : Layout n)

theorem table_congr {x y : Nat -> Nat -> delta}
    (h : forall i, i < l.rows -> forall j, j < l.cols -> x i j = y i j) (enter : delta -> alpha)
    (r : Fin n) : (l.indices r).table enter x = (l.indices r).table enter y := by
  unfold Region.table
  apply Dense.ofFn_congr
  intro i j hi hj
  rw [size_rows_indices] at hi
  rw [size_cols_indices] at hj
  rw [l.getD_rows_indices r hi, l.getD_cols_indices r hj,
    h _ (l.rowIndex_lt r hi) _ (l.colIndex_lt r hj)]

theorem Yields.congr {l : Layout n} {f : Region -> Except Failure (Sheet delta)}
    {x y : Nat -> Nat -> delta} (hf : l.Yields numerics f y)
    (h : forall i, i < l.rows -> forall j, j < l.cols -> x i j = y i j) :
    l.Yields numerics f x := by
  intro r hr
  rw [l.table_congr h]
  exact hf r hr

theorem yields_tabulate (t : ElementType) (x : Nat -> Nat -> delta) :
    l.Yields numerics (fun region => .ok (region.tabulate t x)) x :=
  fun r _ => ⟨_, rfl, (l.indices r).stretch?_tabulate _ t x⟩

theorem yields_single (t : ElementType) (c : delta) :
    l.Yields numerics (fun region => .ok (region.single t c)) fun _ _ => c :=
  fun r _ => ⟨_, rfl, (l.indices r).stretch?_single _ t c⟩

theorem yields_column (t : ElementType) (f : Nat -> delta) :
    l.Yields numerics (fun region => .ok (region.column t f)) fun i _ => f i :=
  fun r _ => ⟨_, rfl, (l.indices r).stretch?_column _ t f⟩

theorem yields_row (t : ElementType) (f : Nat -> delta) :
    l.Yields numerics (fun region => .ok (region.row t f)) fun _ j => f j :=
  fun r _ => ⟨_, rfl, (l.indices r).stretch?_row _ t f⟩

/-!
# The table as a piece of the matrix
-/

theorem piece_tabulated (x : Nat -> Nat -> delta) (r : Fin n) :
    l.piece (l.tabulated numerics x) r =
      (l.indices r).table (numerics.enter l.precision) x := by
  symm
  apply l.eq_piece
  · exact l.size_rows_indices r
  · exact l.size_cols_indices r
  · intro i j hi hj
    unfold Region.table tabulated
    rw [Dense.get_ofFn, Dense.get_ofFn, size_rows_indices, size_cols_indices, if_pos ⟨hi, hj⟩,
      if_pos ⟨l.rowIndex_lt r hi, l.colIndex_lt r hj⟩, l.getD_rows_indices r hi,
      l.getD_cols_indices r hj]

theorem toDense_of_lists {s : Sheet delta} {x : Nat -> Nat -> delta}
    (h : s.Lists l.rows l.cols x) :
    s.toDense (numerics.enter l.precision) l.rows l.cols = l.tabulated numerics x := by
  unfold Sheet.toDense tabulated
  apply Dense.ofFn_congr
  intro i j hi hj
  unfold Sheet.entryAt
  rw [h.entries i hi j hj]

end Layout

/-!
# Replies that load a table
-/

namespace DistributedMatrix

variable {a : DistributedMatrix n alpha} {numerics : Numerics delta alpha rho}

/-- A process that is left out evaluates nothing, but its block is an empty table already. -/
theorem evaluated_of_yields (h : a.Shaped) {f : Region -> Except Failure (Sheet delta)}
    {x : Nat -> Nat -> delta} (hf : a.layout.Yields numerics f x) (r : Fin n) :
    a.evaluated numerics f r =
      .ok ((a.layout.indices r).table (numerics.enter a.layout.precision) x) := by
  unfold evaluated
  simp only
  cases hr : a.layout.grid.active r with
  | false =>
      have hblock : (a.part r).block =
          (a.layout.indices r).table (numerics.enter a.layout.precision) x := by
        rw [← a.layout.piece_tabulated x r]
        exact a.layout.eq_piece_of_inactive _ hr (h r).1 (h r).2
      rw [hblock]
      rfl
  | true =>
      rcases hf r hr with ⟨values, hvalues, hstretch⟩
      rw [Layout.size_rows_indices, Layout.size_cols_indices] at hstretch
      simp only [if_true, bind, Except.bind, hvalues, hstretch]

theorem reply_fill (h : a.Shaped) {f : Region -> Except Failure (Sheet delta)}
    {x : Nat -> Nat -> delta} (hf : a.layout.Yields numerics f x) (choice : PropertyChoice)
    (r : Fin n) :
    let e := (a.part r).loadEffect a.layout
      (some ((a.layout.indices r).table (numerics.enter a.layout.precision) x)) choice
    ((a.fill numerics f choice).get r).part = e.part ∧
      ((a.fill numerics f choice).get r).result = e.result := by
  intro e
  unfold fill fillOn
  rw [PerProcess.get_ofFn, evaluated_of_yields h hf r]
  show _ = (Part.loadEffect _ _ _ _).part ∧ _ = (Part.loadEffect _ _ _ _).result
  unfold Part.loadEffect
  cases a.layout.propertyFrom choice with
  | error failure => exact ⟨rfl, rfl⟩
  | ok property => exact ⟨rfl, rfl⟩

/-- Only the sheet of the first process counts; the others may bring anything. -/
theorem reply_assign (numerics : Numerics delta alpha rho)
    (hopen : a.layout.grid.released = false) (h : a.Shaped)
    {xs : PerProcess n (Option (Sheet delta))} {s : Sheet delta} {x : Nat -> Nat -> delta}
    (hfirst : xs.get a.layout.grid.first = some s)
    (hs : s.Lists a.layout.rows a.layout.cols x) (choice : PropertyChoice) (r : Fin n) :
    let e := (a.part r).loadEffect a.layout
      (some ((a.layout.indices r).table (numerics.enter a.layout.precision) x)) choice
    ((a.assign numerics xs choice).get r).part = e.part ∧
      ((a.assign numerics xs choice).get r).result = e.result := by
  intro e
  have hverdict : (a.verdicts xs).get r = true := by
    unfold verdicts
    rw [Grid.get_world_broadcast a.layout.grid, PerProcess.get_map, hfirst]
    exact hs.real
  have hsource : (xs.map fun s => s.map fun s =>
      s.toDense (numerics.enter a.layout.precision) a.layout.rows a.layout.cols).get
        a.layout.grid.first = some (a.layout.tabulated numerics x) := by
    rw [PerProcess.get_map, hfirst, ← a.layout.toDense_of_lists hs]
    rfl
  have hspread := Layout.get_scatter_pieces hopen (pieces_of_shaped h) hsource rfl rfl r
  rw [a.layout.piece_tabulated] at hspread
  unfold assign
  simp only [PerProcess.get_ofFn, hverdict, if_true, hspread]
  show _ = (Part.loadEffect _ _ _ _).part ∧ _ = (Part.loadEffect _ _ _ _).result
  unfold Part.loadEffect
  cases a.layout.propertyFrom choice with
  | error failure => exact ⟨rfl, rfl⟩
  | ok property => exact ⟨rfl, rfl⟩

/-!
# Filling and assigning
-/

variable [Zero rho] [Measure rho]

/--
A sheet on the first process, and a function that stretches to its entries on every process,
leave the same parts and give the same results, whatever the matrix held before: blocks with
the entries at the indices of the processes, and the property that was chosen. Such functions
return the whole table; a single entry, a column or a row, where the matrix has only that.
-/
theorem assign_eq_fill (numerics : Numerics delta alpha rho) {q : MatrixRequest}
    {settings : Settings} {grid : Grid n} (hopen : grid.released = false) {shape : Argument}
    {made : Created n alpha} (hmade : q.create settings grid shape = .ok made)
    (before : List (Call n delta alpha rho)) {xs : PerProcess n (Option (Sheet delta))}
    {s : Sheet delta} (hfirst : xs.get grid.first = some s) {x : Nat -> Nat -> delta}
    (hs : s.Lists made.matrix.layout.rows made.matrix.layout.cols x) (choice : PropertyChoice) :
    let a := made.matrix.run numerics before
    let l := a.layout
    (forall f, l.Yields numerics f x -> forall r,
      let assigned := (a.assign numerics xs choice).get r
      let filled := (a.fill numerics f choice).get r
      assigned.part = filled.part ∧ assigned.result = filled.result ∧
      forall property, l.propertyFrom choice = .ok property ->
        filled.result = .ok () ∧
        filled.part =
          { block := (l.indices r).table (numerics.enter l.precision) x
            state := .matrix
            property := property.getD (a.part r).freshProperty
            freshProperty := property.getD (a.part r).freshProperty }) ∧
    (forall t, l.Yields numerics (fun region => .ok (region.tabulate t x)) x) ∧
    (forall t c, (forall i, i < l.rows -> forall j, j < l.cols -> x i j = c) ->
      l.Yields numerics (fun region => .ok (region.single t c)) x) ∧
    (forall t u, (forall i, i < l.rows -> forall j, j < l.cols -> x i j = u i) ->
      l.Yields numerics (fun region => .ok (region.column t u)) x) ∧
    (forall t u, (forall i, i < l.rows -> forall j, j < l.cols -> x i j = u j) ->
      l.Yields numerics (fun region => .ok (region.row t u)) x) := by
  intro a l
  have hlayout : a.layout = made.matrix.layout := layout_run _ before
  rcases MatrixRequest.matrix_of_create hmade with ⟨hgrid, initial, hblank⟩
  have hgridNow : a.layout.grid = grid := by rw [hlayout, hgrid]
  have hshaped : a.Shaped := by
    apply shaped_run
    rw [hblank]
    exact shaped_blank _ initial
  refine ⟨?_, fun t => l.yields_tabulate t x, ?_, ?_, ?_⟩
  · intro f hf r assigned filled
    have hassign := reply_assign numerics (by rw [hgridNow, hopen]) hshaped
      (by rw [hgridNow, hfirst]) (by rwa [hlayout]) choice r
    have hfill := reply_fill hshaped hf choice r
    refine ⟨hassign.1.trans hfill.1.symm, hassign.2.trans hfill.2.symm, ?_⟩
    intro property hproperty
    have heffect : (a.part r).loadEffect a.layout
        (some ((l.indices r).table (numerics.enter l.precision) x)) choice =
          ⟨(a.part r).load ((l.indices r).table (numerics.enter l.precision) x) property,
            .ok ()⟩ := by
      unfold Part.loadEffect
      rw [hproperty]
    exact ⟨hfill.2.trans (congrArg Effect.result heffect),
      hfill.1.trans (congrArg Effect.part heffect)⟩
  · intro t c hc
    exact (l.yields_single t c).congr hc
  · intro t u hu
    exact (l.yields_column t u).congr hu
  · intro t u hu
    exact (l.yields_row t u).congr hu

end DistributedMatrix

end

/-- Rows of equal entries over content that was different, with one of three processes left out. -/
theorem DistributedMatrix.assign_eq_fill_rows :
    let grid : Grid 3 := ⟨2, 1, by decide, by decide, by decide, fun _ => 0, false⟩
    let q : MatrixRequest := ⟨.whole 1, .absent, .unspecified, .absent⟩
    let made : Created 3 Int :=
      ⟨.blank ⟨grid, 3, 2, 1, 1, .double, by decide, by decide, by decide, by decide⟩ .general,
        .serialOnRoot⟩
    let t := ElementType.ofPrecision .double
    let s : Sheet Int := ⟨[3, 2], t, #[0, 0, 10, 10, 20, 20]⟩
    let xs : PerProcess 3 (Option (Sheet Int)) := #v[some s, none, some ⟨[1], t, #[5]⟩]
    let rows (region : Region) : Except Failure (Sheet Int) :=
      .ok (region.column t fun i => 10 * i)
    let a := made.matrix.run exactNumerics [.fill (fun _ => .ok ⟨[], t, #[7]⟩) .unspecified]
    q.create .standard grid (.list [.whole 3, .whole 2]) = .ok made ∧
    s.Lists 3 2 (fun i _ => 10 * i) ∧
    (forall r, ((a.assign exactNumerics xs .unspecified).get r).part =
      ((a.fill exactNumerics rows .unspecified).get r).part) ∧
    (a.part 0).block.entries = #[7, 7, 7, 7] ∧
    ((a.assign exactNumerics xs .unspecified).get 0).part.block.entries = #[0, 20, 0, 20] ∧
    ((a.fill exactNumerics rows .unspecified).get 0).part.block.entries = #[0, 20, 0, 20] := by
  intro grid q made t s xs rows a
  have hmade : q.create .standard grid (.list [.whole 3, .whole 2]) = .ok made := rfl
  have hfirst : xs.get grid.first = some s := rfl
  have hlists : s.Lists 3 2 (fun i _ => 10 * i) := ⟨by decide, by decide⟩
  have hagree := assign_eq_fill exactNumerics rfl hmade
    [.fill (fun _ => .ok ⟨[], t, #[7]⟩) .unspecified] hfirst hlists .unspecified
  have hyields := hagree.2.2.2.1 t (fun i => 10 * i) fun _ _ _ _ => rfl
  have hloads := hagree.1 rows hyields
  have hfilled : ((a.fill exactNumerics rows .unspecified).get 0).part.block.entries =
      #[0, 20, 0, 20] := by
    decide +kernel
  refine ⟨hmade, hlists, fun r => (hloads r).1, by decide +kernel, ?_, hfilled⟩
  rw [(hloads 0).1]
  exact hfilled

end BlockCyclic
