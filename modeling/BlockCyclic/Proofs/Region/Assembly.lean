import BlockCyclic.Proofs.Region.Places

/-!
# Cutting and assembling

A matrix is cut into the regions of a grid, and blocks of the right shapes are
assembled to a matrix. The two are inverse to each other, and placing the blocks one
after the other over anything that was there before assembles them.
-/

namespace BlockCyclic

variable {alpha : Type} [Zero alpha]

/-!
# Entries of cut matrices
-/

namespace Dense

/-- The entry in a given row and column stands in the buffer at its place in column order. -/
theorem getElem?_entries (x : Dense alpha) {i j : Nat} (hi : i < x.rows)
    (hj : j < x.cols) :
    x.entries[i + j * x.rows]? = some (x.get i j) := by
  have hplace : i + j * x.rows < x.entries.size := by
    rw [x.size_entries]
    exact place_lt hi hj
  rw [get_of_lt x hi hj, Array.getD, dif_pos hplace]
  exact Array.getElem?_eq_getElem hplace

@[simp] theorem rows_restrict (x : Dense alpha) (r : Region) :
    (x.restrict r).rows = r.rows.size := rfl

@[simp] theorem cols_restrict (x : Dense alpha) (r : Region) :
    (x.restrict r).cols = r.cols.size := rfl

theorem get_restrict (x : Dense alpha) (r : Region) {i j : Nat}
    (hi : i < r.rows.size) (hj : j < r.cols.size) :
    (x.restrict r).get i j = x.get (r.rows.getD i 0) (r.cols.getD j 0) := by
  unfold restrict
  rw [get_ofFn, if_pos ⟨hi, hj⟩]

theorem size_entries_restrict (x : Dense alpha) (r : Region) :
    (x.restrict r).entries.size = r.count :=
  (x.restrict r).size_entries

/-- A buffer as long as the matrix leaves nothing to be taken from beyond. -/
theorem refill_entries (x : Dense alpha) (beyond : Nat -> alpha) (y : Dense alpha)
    (hrows : x.rows = y.rows) (hcols : x.cols = y.cols) :
    x.refill beyond y.entries = y := by
  have hrefill : (x.refill beyond y.entries).rows = y.rows := hrows
  apply ext_get hrefill hcols
  intro i j hi hj
  change i < x.rows at hi
  change j < x.cols at hj
  unfold refill
  rw [get_ofFn, if_pos ⟨hi, hj⟩, Array.getD_eq_getD_getElem?, hrows,
    getElem?_entries y (hrows ▸ hi) (hcols ▸ hj)]
  rfl

end Dense

namespace Region

def place? (r : Region) (i j : Nat) : Option (Nat × Nat) :=
  match r.rows.idxOf? i, r.cols.idxOf? j with
  | some a, some b => some (a, b)
  | _, _ => none

theorem lt_size_of_idxOf? {xs : Array Nat} {i k : Nat} (h : xs.idxOf? i = some k) :
    k < xs.size := by
  rw [Array.idxOf?_eq_map_finIdxOf?_val] at h
  rcases Option.map_eq_some_iff.mp h with ⟨place, _, rfl⟩
  exact place.isLt

theorem lt_of_place? {r : Region} {i j a b : Nat} (h : r.place? i j = some (a, b)) :
    a < r.rows.size ∧ b < r.cols.size := by
  unfold place? at h
  cases hrow : r.rows.idxOf? i with
  | none =>
      rw [hrow] at h
      cases h
  | some a' =>
      cases hcol : r.cols.idxOf? j with
      | none =>
          rw [hrow, hcol] at h
          cases h
      | some b' =>
          rw [hrow, hcol] at h
          cases h
          exact ⟨lt_size_of_idxOf? hrow, lt_size_of_idxOf? hcol⟩

end Region

namespace Dense

@[simp] theorem rows_place (x : Dense alpha) (r : Region) (flat : Array alpha) :
    (x.place r flat).rows = x.rows := rfl

@[simp] theorem cols_place (x : Dense alpha) (r : Region) (flat : Array alpha) :
    (x.place r flat).cols = x.cols := rfl

theorem get_place_of_some {x : Dense alpha} {r : Region} {flat : Array alpha}
    {i j a b : Nat} (hi : i < x.rows) (hj : j < x.cols)
    (hplace : r.place? i j = some (a, b)) :
    (x.place r flat).get i j = flat.getD (a + b * r.rows.size) (x.get i j) := by
  unfold Region.place? at hplace
  unfold place
  rw [get_mapPlaces, if_pos ⟨hi, hj⟩]
  cases hrow : r.rows.idxOf? i with
  | none =>
      rw [hrow] at hplace
      cases hplace
  | some a' =>
      cases hcol : r.cols.idxOf? j with
      | none =>
          rw [hrow, hcol] at hplace
          cases hplace
      | some b' =>
          rw [hrow, hcol] at hplace
          cases hplace
          rfl

theorem get_place_of_none {x : Dense alpha} {r : Region} {flat : Array alpha}
    {i j : Nat} (hi : i < x.rows) (hj : j < x.cols)
    (hplace : r.place? i j = none) :
    (x.place r flat).get i j = x.get i j := by
  unfold Region.place? at hplace
  unfold place
  rw [get_mapPlaces, if_pos ⟨hi, hj⟩]
  cases hrow : r.rows.idxOf? i with
  | none => rfl
  | some a =>
      cases hcol : r.cols.idxOf? j with
      | none => rfl
      | some b =>
          rw [hrow, hcol] at hplace
          cases hplace

def placeAll (x : Dense alpha) (pieces : List (Region × Array alpha)) : Dense alpha :=
  pieces.foldl (fun x p => x.place p.1 p.2) x

@[simp] theorem rows_placeAll (x : Dense alpha) (pieces : List (Region × Array alpha)) :
    (x.placeAll pieces).rows = x.rows := by
  induction pieces generalizing x with
  | nil => rfl
  | cons p rest ih => exact ih (x.place p.1 p.2)

@[simp] theorem cols_placeAll (x : Dense alpha) (pieces : List (Region × Array alpha)) :
    (x.placeAll pieces).cols = x.cols := by
  induction pieces generalizing x with
  | nil => rfl
  | cons p rest ih => exact ih (x.place p.1 p.2)

/-
The induction carries that the entry either has its value already, or lies in a region
that is still to come; no piece takes the value away again.
-/
theorem get_placeAll {x : Dense alpha} {pieces : List (Region × Array alpha)}
    {i j : Nat} {value : alpha} (hi : i < x.rows) (hj : j < x.cols)
    (hcovered : x.get i j = value ∨ exists p, p ∈ pieces ∧ (p.1.place? i j).isSome)
    (hvalue : forall p, p ∈ pieces -> forall a b, p.1.place? i j = some (a, b) ->
      p.2[a + b * p.1.rows.size]? = some value) :
    (x.placeAll pieces).get i j = value := by
  induction pieces generalizing x with
  | nil =>
      rcases hcovered with hdone | ⟨p, hp, _⟩
      · exact hdone
      · cases hp
  | cons p rest ih =>
      apply ih (x := x.place p.1 p.2) hi hj
      · cases hplace : p.1.place? i j with
        | none =>
            rcases hcovered with hdone | ⟨q, hq, hsome⟩
            · apply Or.inl
              rw [get_place_of_none hi hj hplace]
              exact hdone
            · rcases List.mem_cons.mp hq with hhead | hrest
              · rw [hhead, hplace] at hsome
                cases hsome
              · exact Or.inr ⟨q, hrest, hsome⟩
        | some ab =>
            have hentry := hvalue p List.mem_cons_self ab.1 ab.2 hplace
            apply Or.inl
            rw [get_place_of_some hi hj hplace, Array.getD_eq_getD_getElem?, hentry]
            rfl
      · intro q hq
        exact hvalue q (List.mem_cons_of_mem p hq)

end Dense

/-!
# Whole grids
-/

namespace Distribution

variable {d : Distribution}

theorem place?_regionOf (hd : d.Positive) {i j : Nat} (hi : (i : Int) < d.rows)
    (hj : (j : Int) < d.cols) :
    (d.regionOf i j).place? i j = some (d.slots i j) := by
  unfold Region.place? regionOf slots
  rw [region_eq, Axis.idxOf?_places_owner hd.rowAxis hi,
    Axis.idxOf?_places_owner hd.colAxis hj]

/-- Only the owner of an entry has a place for it. -/
theorem owner_of_place? (hd : d.Positive) {prow pcol : Int}
    (hrow : 0 ≤ prow) (hrowLt : prow < d.rowAxis.procs)
    (hcol : 0 ≤ pcol) (hcolLt : pcol < d.colAxis.procs) {i j : Nat}
    (h : ((d.region prow pcol).place? i j).isSome) :
    d.rowAxis.owner i = prow ∧ d.colAxis.owner j = pcol := by
  unfold Region.place? at h
  rw [region_eq] at h
  cases hi : (d.rowAxis.places d.rows prow).idxOf? i with
  | none =>
      rw [hi] at h
      cases h
  | some a =>
      cases hj : (d.colAxis.places d.cols pcol).idxOf? j with
      | none =>
          rw [hi, hj] at h
          cases h
      | some b =>
          have hmemRow : i ∈ d.rowAxis.places d.rows prow := by
            rw [← Array.isSome_idxOf?, hi]
            rfl
          have hmemCol : j ∈ d.colAxis.places d.cols pcol := by
            rw [← Array.isSome_idxOf?, hj]
            rfl
          exact ⟨(Axis.owner_of_mem_places hd.rowAxis hrow hrowLt hmemRow).2,
            (Axis.owner_of_mem_places hd.colAxis hcol hcolLt hmemCol).2⟩

theorem size_rows_region (d : Distribution) (prow pcol : Int) :
    (d.region prow pcol).rows.size = (d.localShape prow pcol).1.toNat :=
  Axis.size_places d.rowAxis d.rows prow

theorem size_cols_region (d : Distribution) (prow pcol : Int) :
    (d.region prow pcol).cols.size = (d.localShape prow pcol).2.toNat :=
  Axis.size_places d.colAxis d.cols pcol

def BlockShape (d : Distribution) (prow pcol : Int) (block : Dense alpha) : Prop :=
  block.rows = (d.localShape prow pcol).1.toNat ∧
    block.cols = (d.localShape prow pcol).2.toNat

theorem blockShape_restrict (d : Distribution) (prow pcol : Int) (x : Dense alpha) :
    d.BlockShape prow pcol (x.restrict (d.region prow pcol)) :=
  ⟨size_rows_region d prow pcol, size_cols_region d prow pcol⟩

/-- The matrix whose entries stand in the blocks of their owners. -/
def assemble (d : Distribution) (blocks : Int -> Int -> Dense alpha) : Dense alpha :=
  Dense.ofFn d.rows.toNat d.cols.toNat fun i j =>
    (blocks (d.rowAxis.owner i) (d.colAxis.owner j)).get (d.slots i j).1 (d.slots i j).2

theorem get_assemble (blocks : Int -> Int -> Dense alpha) {i j : Nat}
    (hi : (i : Int) < d.rows) (hj : (j : Int) < d.cols) :
    (d.assemble blocks).get i j =
      (blocks (d.rowAxis.owner i) (d.colAxis.owner j)).get
        (d.slots i j).1 (d.slots i j).2 := by
  unfold assemble
  rw [Dense.get_ofFn, if_pos ⟨by omega, by omega⟩]

theorem assemble_congr (hd : d.Positive) {blocks other : Int -> Int -> Dense alpha}
    (h : forall prow pcol, 0 ≤ prow -> prow < d.rowAxis.procs -> 0 ≤ pcol ->
      pcol < d.colAxis.procs -> blocks prow pcol = other prow pcol) :
    d.assemble blocks = d.assemble other := by
  refine Dense.ext_get ?_ ?_ ?_
  · rfl
  · rfl
  · intro i j hi hj
    change i < d.rows.toNat at hi
    change j < d.cols.toNat at hj
    rw [get_assemble _ (by omega) (by omega), get_assemble _ (by omega) (by omega),
      h _ _ (Axis.owner_nonneg hd.rowAxis i) (Axis.owner_lt hd.rowAxis i)
        (Axis.owner_nonneg hd.colAxis j) (Axis.owner_lt hd.colAxis j)]

theorem get_restrict_region (x : Dense alpha) {prow pcol : Int}
    {a b : Nat} (ha : a < (d.region prow pcol).rows.size)
    (hb : b < (d.region prow pcol).cols.size) :
    (x.restrict (d.region prow pcol)).get a b =
      x.get (d.rowAxis.index prow a).toNat (d.colAxis.index pcol b).toNat := by
  rw [Dense.get_restrict x _ ha hb]
  rw [region_eq] at ha hb ⊢
  rw [Axis.size_places] at ha hb
  rw [Axis.getD_places _ _ _ ha, Axis.getD_places _ _ _ hb]

/-- What is cut out of a matrix for the owner of an entry holds the entry in its slot. -/
theorem get_restrict_regionOf (hd : d.Positive) (x : Dense alpha) {i j : Nat}
    (hi : (i : Int) < d.rows) (hj : (j : Int) < d.cols) :
    (x.restrict (d.regionOf i j)).get (d.slots i j).1 (d.slots i j).2 = x.get i j := by
  have hrowSlot := Axis.slot_nonneg hd.rowAxis (Int.natCast_nonneg i)
  have hcolSlot := Axis.slot_nonneg hd.colAxis (Int.natCast_nonneg j)
  have hrowLt := Axis.slot_lt_extent hd.rowAxis hi
  have hcolLt := Axis.slot_lt_extent hd.colAxis hj
  unfold regionOf slots
  rw [get_restrict_region]
  · rw [Int.toNat_of_nonneg hrowSlot, Int.toNat_of_nonneg hcolSlot,
      Axis.index_owner_slot hd.rowAxis, Axis.index_owner_slot hd.colAxis,
      Int.toNat_natCast, Int.toNat_natCast]
  · rw [region_eq, Axis.size_places]
    omega
  · rw [region_eq, Axis.size_places]
    omega

theorem assemble_restrict (hd : d.Positive) (x : Dense alpha)
    (hrows : x.rows = d.rows.toNat) (hcols : x.cols = d.cols.toNat) :
    (d.assemble fun prow pcol => x.restrict (d.region prow pcol)) = x := by
  apply Dense.ext_get hrows.symm hcols.symm
  intro i j hi hj
  change i < d.rows.toNat at hi
  change j < d.cols.toNat at hj
  rw [get_assemble _ (by omega) (by omega)]
  exact get_restrict_regionOf hd x (by omega) (by omega)

theorem restrict_assemble (hd : d.Positive) (blocks : Int -> Int -> Dense alpha)
    {prow pcol : Int} (hrow : 0 ≤ prow) (hrowLt : prow < d.rowAxis.procs)
    (hcol : 0 ≤ pcol) (hcolLt : pcol < d.colAxis.procs)
    (hshape : d.BlockShape prow pcol (blocks prow pcol)) :
    (d.assemble blocks).restrict (d.region prow pcol) = blocks prow pcol := by
  have hrows : ((d.assemble blocks).restrict (d.region prow pcol)).rows =
      (blocks prow pcol).rows := by
    rw [Dense.rows_restrict, size_rows_region, hshape.1]
  have hcols : ((d.assemble blocks).restrict (d.region prow pcol)).cols =
      (blocks prow pcol).cols := by
    rw [Dense.cols_restrict, size_cols_region, hshape.2]
  apply Dense.ext_get hrows hcols
  intro a b ha hb
  change a < (d.region prow pcol).rows.size at ha
  change b < (d.region prow pcol).cols.size at hb
  rw [get_restrict_region _ ha hb]
  rw [region_eq] at ha hb
  rw [Axis.size_places] at ha hb
  have hrowIndex := Axis.index_nonneg hd.rowAxis prow (Int.natCast_nonneg a)
  have hcolIndex := Axis.index_nonneg hd.colAxis pcol (Int.natCast_nonneg b)
  have hrowBound := (Axis.lt_extent_iff hd.rowAxis d.rows prow a).mp (by omega)
  have hcolBound := (Axis.lt_extent_iff hd.colAxis d.cols pcol b).mp (by omega)
  rw [get_assemble _ (by omega) (by omega)]
  unfold slots
  rw [Int.toNat_of_nonneg hrowIndex, Int.toNat_of_nonneg hcolIndex,
    Axis.owner_index hd.rowAxis hrow hrowLt, Axis.owner_index hd.colAxis hcol hcolLt,
    Axis.slot_index hd.rowAxis, Axis.slot_index hd.colAxis, Int.toNat_natCast,
    Int.toNat_natCast]

/-- A conversion of all entries may be made before or after the cut. -/
theorem map_restrict_region {beta : Type} [Zero beta] (hd : d.Positive) (f : alpha -> beta)
    (x : Dense alpha) (hrows : x.rows = d.rows.toNat) (hcols : x.cols = d.cols.toNat)
    (prow pcol : Int) :
    (x.restrict (d.region prow pcol)).map f =
      (x.map f).restrict (d.region prow pcol) := by
  have hsameRows : ((x.restrict (d.region prow pcol)).map f).rows =
      ((x.map f).restrict (d.region prow pcol)).rows := rfl
  apply Dense.ext_get hsameRows rfl
  intro a b ha hb
  change a < (d.region prow pcol).rows.size at ha
  change b < (d.region prow pcol).cols.size at hb
  rw [Dense.get_map f _ ha hb, get_restrict_region _ ha hb, get_restrict_region _ ha hb]
  rw [region_eq] at ha hb
  rw [Axis.size_places] at ha hb
  have hrowIndex := Axis.index_nonneg hd.rowAxis prow (Int.natCast_nonneg a)
  have hcolIndex := Axis.index_nonneg hd.colAxis pcol (Int.natCast_nonneg b)
  have hrowBound := (Axis.lt_extent_iff hd.rowAxis d.rows prow a).mp (by omega)
  have hcolBound := (Axis.lt_extent_iff hd.colAxis d.cols pcol b).mp (by omega)
  rw [Dense.get_map f x (by omega) (by omega)]

end Distribution
end BlockCyclic
