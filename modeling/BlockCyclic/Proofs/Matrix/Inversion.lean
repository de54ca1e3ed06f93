import BlockCyclic.Proofs.Matrix.Agreement

/-!
# Factor, then invert

The content that a matrix stores is what the first process gathers. A factor is stored
with zeros above the diagonal, and local writes may change it in any way before it is
inverted. The inverse of whatever is stored then is completed from its lower triangle.
-/

namespace BlockCyclic

variable {n : Nat} {delta alpha rho : Type} [Zero alpha]

/-!
# Stored content
-/

/--
All processes take their content to be the same, in a state, and hold blocks of their
shapes; the first one gathers a matrix of them.
-/
structure DistributedMatrix.Stores (a : DistributedMatrix n alpha) (state : State)
    (x : Dense alpha) : Prop where
  agrees : a.Agrees
  state : forall r, (a.part r).state = state
  rows : forall r, (a.part r).block.rows = (a.layout.localShape r).1
  cols : forall r, (a.part r).block.cols = (a.layout.localShape r).2
  gathered : a.gathered.get a.layout.grid.first = some x

namespace DistributedMatrix

variable {a : DistributedMatrix n alpha} {state : State} {x : Dense alpha} {w : Part alpha}

theorem stores_of_holds (hopen : a.layout.grid.released = false) (h : a.Holds w) :
    a.Stores w.state w.block where
  agrees := by
    intro r s
    rw [h.parts r, h.parts s]
    rfl
  state := by
    intro r
    rw [h.parts r]
    rfl
  rows := by
    intro r
    rw [h.parts r]
    exact a.layout.rows_piece w.block r
  cols := by
    intro r
    rw [h.parts r]
    exact a.layout.cols_piece w.block r
  gathered := by
    rw [get_gathered hopen h, if_pos rfl]

theorem stores_after {beta : Type} (hopen : a.layout.grid.released = false)
    {replies : Replies n alpha beta} {e : Effect alpha beta}
    (hfits : e.part.Fits a.layout.rows a.layout.cols)
    (hshows : forall r, (replies.get r).Shows a.layout r e) :
    (forall r, (replies.get r).result = e.result) ∧
      (a.after replies).Stores e.part.state e.part.block :=
  ⟨fun r => (hshows r).2, stores_of_holds (a := a.after replies) hopen
    (holds_after hfits fun r => (hshows r).1)⟩

theorem shaped_of_stores (h : a.Stores state x) : a.Shaped :=
  fun r => ⟨h.rows r, h.cols r⟩

theorem whole_of_stores (hopen : a.layout.grid.released = false) (h : a.Stores state x) :
    a.whole = x := by
  have hgathered := h.gathered
  rw [get_gathered_of_shaped hopen (shaped_of_stores h), if_pos rfl] at hgathered
  exact Option.some.inj hgathered

/-- What the processes of a square matrix keep is held as a whole. -/
theorem exists_holds (hsquare : a.layout.rows = a.layout.cols) (hagrees : a.Agrees)
    (hshaped : a.Shaped) :
    exists w, a.Holds w ∧ w.block = a.whole ∧ forall r, w.state = (a.part r).state ∧
      w.property = (a.part r).property := by
  refine ⟨{ a.part a.layout.grid.first with block := a.whole }, ⟨?_, ?_⟩, rfl, ?_⟩
  · exact
      { rows := a.rows_whole
        cols := a.cols_whole
        symmetric := fun _ => hsquare
        freshSymmetric := fun _ => hsquare
        cholesky := fun _ => hsquare }
  · intro r
    have hblock := pieces_of_shaped hshaped r
    rw [get_blocks_eq] at hblock
    have hmeaning := hagrees r a.layout.grid.first
    calc
      a.part r = ⟨(a.part r).block, (a.part r).state, (a.part r).property,
          (a.part r).freshProperty⟩ := rfl
      _ = _ := by
          rw [hblock, Part.state_eq hmeaning, Part.property_eq hmeaning,
            Part.freshProperty_eq hmeaning]
          rfl
  · intro r
    have hmeaning := hagrees a.layout.grid.first r
    exact ⟨Part.state_eq hmeaning, Part.property_eq hmeaning⟩

theorem holds_of_stores (hopen : a.layout.grid.released = false)
    (hsquare : a.layout.rows = a.layout.cols) (h : a.Stores state x) :
    exists w, a.Holds w ∧ w.block = x ∧ w.state = state ∧
      forall r, w.property = (a.part r).property := by
  rcases exists_holds hsquare h.agrees (shaped_of_stores h) with ⟨w, hw, hblock, hmeaning⟩
  refine ⟨w, hw, hblock.trans (whole_of_stores hopen h), ?_, fun r => (hmeaning r).2⟩
  exact (hmeaning a.layout.grid.first).1.trans (h.state a.layout.grid.first)

theorem shape_of_stores (hopen : a.layout.grid.released = false)
    (hsquare : a.layout.rows = a.layout.cols) (h : a.Stores state x) :
    x.rows = a.layout.rows ∧ x.cols = a.layout.rows := by
  rw [← whole_of_stores hopen h]
  exact ⟨a.rows_whole, a.cols_whole.trans hsquare.symm⟩

end DistributedMatrix

/-!
# Local writes
-/

def Call.Writes : Call n delta alpha rho -> Prop
  | .setElement .. => True
  | _ => False

namespace DistributedMatrix

variable {a : DistributedMatrix n alpha} {state : State} {x : Dense alpha}

theorem setElement_keeps (a : DistributedMatrix n alpha) (r : Fin n) (i j : Subscript)
    (value : alpha) :
    (a.setElement r i j value).part.meaning = (a.part r).meaning ∧
      (a.setElement r i j value).part.block.rows = (a.part r).block.rows ∧
      (a.setElement r i j value).part.block.cols = (a.part r).block.cols := by
  unfold setElement
  simp only
  cases a.selection r i j with
  | ok s => exact ⟨rfl, rfl, rfl⟩
  | error failure => exact ⟨rfl, rfl, rfl⟩

section

variable [Zero rho] [Measure rho] (numerics : Numerics delta alpha rho)

theorem next_keeps (a : DistributedMatrix n alpha) {call : Call n delta alpha rho}
    (hcall : call.Writes) (r : Fin n) :
    ((a.next numerics call).part r).meaning = (a.part r).meaning ∧
      ((a.next numerics call).part r).block.rows = (a.part r).block.rows ∧
      ((a.next numerics call).part r).block.cols = (a.part r).block.cols := by
  cases call with
  | setElement writers i j value =>
      rw [part_next]
      unfold perform
      simp only
      rw [PerProcess.get_ofFn]
      cases writers r with
      | true => exact setElement_keeps a r i j value
      | false => exact ⟨rfl, rfl, rfl⟩
  | setProperty choice => cases hcall
  | assign content choice => cases hcall
  | fill f choice => cases hcall
  | copyTo everywhere => cases hcall
  | cholesky => cases hcall
  | invert => cases hcall
  | eigen vectors => cases hcall
  | condition norm => cases hcall
  | norm kind => cases hcall

theorem stores_write (hopen : a.layout.grid.released = false)
    (hsquare : a.layout.rows = a.layout.cols) (h : a.Stores state x)
    {call : Call n delta alpha rho} (hcall : call.Writes) :
    exists y, (a.next numerics call).Stores state y := by
  have hkeeps := fun r => next_keeps numerics a hcall r
  have hagrees : (a.next numerics call).Agrees := by
    intro r s
    rw [(hkeeps r).1, (hkeeps s).1]
    exact h.agrees r s
  have hshaped : (a.next numerics call).Shaped := fun r =>
    ⟨(hkeeps r).2.1.trans (h.rows r), (hkeeps r).2.2.trans (h.cols r)⟩
  rcases exists_holds (a := a.next numerics call) hsquare hagrees hshaped with
    ⟨w, hw, _, hmeaning⟩
  have hstate : w.state = state := by
    rw [(hmeaning a.layout.grid.first).1, Part.state_eq (hkeeps a.layout.grid.first).1]
    exact h.state a.layout.grid.first
  refine ⟨w.block, ?_⟩
  rw [← hstate]
  exact stores_of_holds (a := a.next numerics call) hopen hw

theorem stores_writes (hopen : a.layout.grid.released = false)
    (hsquare : a.layout.rows = a.layout.cols) (h : a.Stores state x)
    {writes : List (Call n delta alpha rho)}
    (hwrites : forall call, call ∈ writes -> call.Writes) :
    exists y, (a.run numerics writes).Stores state y := by
  apply run_preserves (P := fun b => exists y, b.Stores state y) _ rfl ⟨x, h⟩ hwrites
  -- Each write leaves some content, known only to have the same shape and state.
  rintro b call hlayout hcall ⟨y, hy⟩
  rw [← hlayout] at hopen hsquare
  exact stores_write numerics hopen hsquare hy hcall

end

/-!
# Factor and inverse
-/

section

variable {numerics : Numerics delta alpha rho}

theorem stores_cholesky (hshape : numerics.serial.KeepsShape)
    (hopen : a.layout.grid.released = false) (hsquare : a.layout.rows = a.layout.cols)
    (h : a.Stores .matrix x) (hproperty : forall r, (a.part r).property = .symmetric)
    (hstatus : (numerics.serial.factor a.layout.precision .lower x).status = 0) :
    (forall r, ((a.cholesky numerics).get r).result = .ok ()) ∧
      (a.after (a.cholesky numerics)).Stores .cholesky
        (numerics.serial.factor a.layout.precision .lower x).matrix.lowerPart := by
  rcases holds_of_stores hopen hsquare h with ⟨w, hw, rfl, hstate, hsymmetric⟩
  have hallowed : w.requireSymmetric .cholesky = .ok () := by
    unfold Part.requireSymmetric Part.requireState Part.requireProperty
    rw [hstate, (hsymmetric a.layout.grid.first).trans (hproperty a.layout.grid.first)]
    rfl
  have hshows := fun r => shows_cholesky hopen hw hshape r
  have hfits := Part.fits_choleskyEffect hshape hw.fits a.layout.precision
  have heffect : w.choleskyEffect numerics a.layout.precision =
      ⟨{ w with
          block := (numerics.serial.factor a.layout.precision .lower w.block).matrix.lowerPart
          state := .cholesky
          property := .lowerTriangular }, .ok ()⟩ := by
    unfold Part.choleskyEffect Effect.guarded
    rw [hallowed]
    simp only
    rw [if_neg (not_not_intro hstatus)]
  rw [heffect] at hshows hfits
  exact stores_after hopen hfits hshows

theorem stores_invert (hshape : numerics.serial.KeepsShape)
    (hopen : a.layout.grid.released = false) (hsquare : a.layout.rows = a.layout.cols)
    (h : a.Stores .cholesky x)
    (hstatus : (numerics.serial.invert a.layout.precision .lower x).status = 0) :
    (forall r, ((a.invert numerics).get r).result = .ok ()) ∧
      (a.after (a.invert numerics)).Stores .inverse
        (numerics.serial.invert a.layout.precision .lower x).matrix.mirrored := by
  rcases holds_of_stores hopen hsquare h with ⟨w, hw, rfl, hstate, _⟩
  have hallowed : w.requireState .inversion = .ok () := by
    unfold Part.requireState
    rw [hstate]
    rfl
  have hshows := fun r => shows_invert hopen hw hshape r
  have hfits := Part.fits_invertEffect hshape hw.fits a.layout.precision
  have heffect : w.invertEffect numerics a.layout.precision =
      ⟨{ w with
          block := (numerics.serial.invert a.layout.precision .lower w.block).matrix.mirrored
          state := .inverse
          property := .symmetric }, .ok ()⟩ := by
    unfold Part.invertEffect Effect.guarded
    rw [hallowed]
    simp only
    rw [if_neg (not_not_intro hstatus)]
  rw [heffect] at hshows hfits
  exact stores_after hopen hfits hshows

end

variable [Zero rho] [Measure rho]

/--
Factoring stores the lower triangle of the serial factor under zeros, and any local writes
leave a factor to invert. Inverting any stored factor, whatever it holds, stores the
symmetric matrix that the lower triangle of its serial inverse determines.
-/
theorem factor_then_invert (numerics : Numerics delta alpha rho)
    (hshape : numerics.serial.KeepsShape) {a : DistributedMatrix n alpha}
    (hopen : a.layout.grid.released = false) (hsquare : a.layout.rows = a.layout.cols)
    {x : Dense alpha} (hstored : a.Stores .matrix x)
    (hproperty : forall r, (a.part r).property = .symmetric)
    (hfactored : (numerics.serial.factor a.layout.precision .lower x).status = 0) :
    let factor := (numerics.serial.factor a.layout.precision .lower x).matrix
    let c := a.after (a.cholesky numerics)
    (forall r, ((a.cholesky numerics).get r).result = .ok ()) ∧
    (exists y, c.Stores .cholesky y ∧
      forall i j, i < a.layout.rows -> j < a.layout.rows ->
        y.get i j = if i < j then 0 else factor.get i j) ∧
    (forall writes : List (Call n delta alpha rho),
      (forall call, call ∈ writes -> call.Writes) ->
      exists y, (c.run numerics writes).Stores .cholesky y) ∧
    (forall (b : DistributedMatrix n alpha) (y : Dense alpha), b.layout = a.layout ->
      b.Stores .cholesky y ->
      (numerics.serial.invert a.layout.precision .lower y).status = 0 ->
      let inverse := (numerics.serial.invert a.layout.precision .lower y).matrix
      (forall r, ((b.invert numerics).get r).result = .ok ()) ∧
      exists z, (b.after (b.invert numerics)).Stores .inverse z ∧
        (forall i j, i < a.layout.rows -> j < a.layout.rows ->
          z.get i j = if i < j then inverse.get j i else inverse.get i j) ∧
        (forall i j, i < a.layout.rows -> j < a.layout.rows -> z.get i j = z.get j i)) := by
  intro factor c
  rcases stores_cholesky hshape hopen hsquare hstored hproperty hfactored with
    ⟨hdone, hcholesky⟩
  have hx := shape_of_stores hopen hsquare hstored
  have hfactor := hshape.factor a.layout.precision .lower x
    (hx.1.trans hx.2.symm) hfactored
  refine ⟨hdone, ⟨factor.lowerPart, hcholesky, ?_⟩, ?_, ?_⟩
  · intro i j hi hj
    rw [← hx.1, ← hfactor.1] at hi
    rw [← hx.2, ← hfactor.2] at hj
    exact Dense.get_lowerPart hi hj
  · intro writes hwrites
    exact stores_writes (a := c) numerics hopen hsquare hcholesky hwrites
  · intro b y hlayout hb hinverted inverse
    have hopenB : b.layout.grid.released = false := by rw [hlayout, hopen]
    have hsquareB : b.layout.rows = b.layout.cols := by rw [hlayout, hsquare]
    have hy := shape_of_stores hopenB hsquareB hb
    rw [← hlayout] at hinverted
    rcases stores_invert hshape hopenB hsquareB hb hinverted with ⟨hdoneB, hinverse⟩
    have hkeeps := hshape.invert b.layout.precision .lower y
      (hy.1.trans hy.2.symm) hinverted
    rw [hlayout] at hinverse hkeeps hy
    have hinside : forall i j, i < a.layout.rows -> j < a.layout.rows ->
        i < inverse.rows ∧ j < inverse.cols := by
      intro i j hi hj
      rw [hkeeps.1, hkeeps.2, hy.1, hy.2]
      exact ⟨hi, hj⟩
    refine ⟨hdoneB, inverse.mirrored, hinverse, ?_, ?_⟩
    · intro i j hi hj
      exact Dense.get_mirrored (hinside i j hi hj).1 (hinside i j hi hj).2
    · intro i j hi hj
      apply Dense.get_mirrored_comm (hinside i j hi hj).1 (hinside i j hi hj).2
      exact (hkeeps.1.trans hy.1).trans (hkeeps.2.trans hy.2).symm

/-- Two rows on two of three processes; the factor is inverted under an entry written above it. -/
theorem factor_then_invert_two_rows :
    let l : Layout 3 :=
      { grid := ⟨2, 1, by decide, by decide, by decide, fun _ => 0, false⟩
        rows := 2, cols := 2, rowBlock := 1, colBlock := 2, precision := .double
        rows_pos := by decide, cols_pos := by decide
        rowBlock_pos := by decide, colBlock_pos := by decide }
    let x : Dense Int := Dense.ofFn 2 2 fun i j => if i = 1 ∧ j = 1 then 2 else 1
    let y : Dense Int := Dense.ofFn 2 2 fun i j => if i < j then 7 else 1
    let a : DistributedMatrix 3 Int :=
      ⟨l, Vector.ofFn fun r => ⟨l.piece x r, .matrix, .symmetric, .symmetric⟩⟩
    let b : DistributedMatrix 3 Int :=
      ⟨l, Vector.ofFn fun r => ⟨l.piece y r, .cholesky, .lowerTriangular, .symmetric⟩⟩
    (exists factor, (a.after (a.cholesky exactNumerics)).Stores .cholesky factor ∧
      [factor.get 0 0, factor.get 0 1, factor.get 1 0, factor.get 1 1] = [1, 0, 1, 1]) ∧
    (exists inverse, (b.after (b.invert exactNumerics)).Stores .inverse inverse ∧
      [inverse.get 0 0, inverse.get 0 1, inverse.get 1 0, inverse.get 1 1] =
        [2, -1, -1, 1]) := by
  intro l x y a b
  have hstored : a.Stores .matrix x :=
    stores_of_holds (w := ⟨x, .matrix, .symmetric, .symmetric⟩) rfl
      ⟨⟨rfl, rfl, fun _ => rfl, fun _ => rfl, fun _ => rfl⟩,
        fun r => PerProcess.get_ofFn _ r⟩
  have hother : b.Stores .cholesky y :=
    stores_of_holds (w := ⟨y, .cholesky, .lowerTriangular, .symmetric⟩) rfl
      ⟨⟨rfl, rfl, fun _ => rfl, fun _ => rfl, fun _ => rfl⟩,
        fun r => PerProcess.get_ofFn _ r⟩
  have hproperty : forall r, (a.part r).property = .symmetric := by decide
  rcases factor_then_invert exactNumerics exactKernels_keepsShape rfl rfl hstored hproperty
    (by decide +kernel) with ⟨_, ⟨factor, hfactor, hget⟩, _, hinvert⟩
  rcases hinvert b y rfl hother (by decide +kernel) with ⟨_, inverse, hinverse, hmirrored, _⟩
  refine ⟨⟨factor, hfactor, ?_⟩, inverse, hinverse, ?_⟩
  · rw [hget 0 0 (by decide) (by decide), hget 0 1 (by decide) (by decide),
      hget 1 0 (by decide) (by decide), hget 1 1 (by decide) (by decide)]
    decide +kernel
  · rw [hmirrored 0 0 (by decide) (by decide), hmirrored 0 1 (by decide) (by decide),
      hmirrored 1 0 (by decide) (by decide), hmirrored 1 1 (by decide) (by decide)]
    decide +kernel

end DistributedMatrix
end BlockCyclic
