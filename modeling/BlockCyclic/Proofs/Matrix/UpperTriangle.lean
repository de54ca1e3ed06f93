import BlockCyclic.Proofs.Kernel.LowerTriangle
import BlockCyclic.Proofs.Matrix.Inversion

/-!
# Nothing comes from above the diagonal

Two runs start from contents that differ above the diagonal at most. The serial kernels
carry what is there into their results, but a factor is stored with zeros above the
diagonal, and from then on both runs hold the same content. Whatever reads it, the condition
estimate and the inversion, gives the same results.
-/

namespace BlockCyclic

variable {n : Nat} {delta alpha rho : Type} [Zero alpha]

/-!
# Effects on alike parts
-/

/-- Parts that nothing but the property of content loaded anew can tell apart. -/
structure Part.Alike (w v : Part alpha) : Prop where
  block : w.block = v.block
  state : w.state = v.state
  property : w.property = v.property

structure Effect.Alike {beta : Type} (e f : Effect alpha beta) : Prop where
  part : e.part.Alike f.part
  result : e.result = f.result

namespace Part

variable {numerics : Numerics delta alpha rho} {w v : Part alpha}

omit [Zero alpha] in
theorem requireState_of_alike (h : w.Alike v) (operation : Operation) :
    w.requireState operation = v.requireState operation := by
  unfold requireState
  rw [h.state]

omit [Zero alpha] in
theorem requireSymmetric_of_symmetric {operation : Operation}
    (hoperation : operation.states = [.matrix]) (hstate : w.state = .matrix)
    (hproperty : w.property = .symmetric) : w.requireSymmetric operation = .ok () := by
  unfold requireSymmetric requireState requireProperty
  rw [hoperation, hstate, hproperty]
  rfl

theorem choleskyEffect_of_symmetric (hw : w.state = .matrix ∧ w.property = .symmetric)
    (p : Precision) :
    w.choleskyEffect numerics p =
      if (numerics.serial.factor p .lower w.block).status ≠ 0 then
        .refuse w (.numerical ⟨"potrf", (numerics.serial.factor p .lower w.block).status⟩)
      else
        { part :=
            { w with
              block := (numerics.serial.factor p .lower w.block).matrix.lowerPart
              state := .cholesky
              property := .lowerTriangular }
          result := .ok () } := by
  unfold choleskyEffect
  rw [requireSymmetric_of_symmetric rfl hw.1 hw.2]
  rfl

omit [Zero alpha] in
theorem eigenEffect_of_symmetric (hw : w.state = .matrix ∧ w.property = .symmetric)
    (p : Precision) (vectors : Bool) :
    w.eigenEffect numerics p vectors =
      if (numerics.serial.eigen p vectors .lower w.block).status ≠ 0 then
        .refuse w
          (.numerical ⟨"syev", (numerics.serial.eigen p vectors .lower w.block).status⟩)
      else
        { part := DistributedMatrix.solvedPart w vectors true
            (numerics.serial.eigen p vectors .lower w.block).vectors
          result := .ok (numerics.serial.eigen p vectors .lower w.block).values } := by
  unfold eigenEffect
  rw [requireSymmetric_of_symmetric rfl hw.1 hw.2]
  rfl

theorem alike_invertEffect (numerics : Numerics delta alpha rho) (h : w.Alike v) (p : Precision) :
    (w.invertEffect numerics p).Alike (v.invertEffect numerics p) := by
  unfold invertEffect Effect.guarded
  rw [requireState_of_alike h, h.block]
  cases v.requireState .inversion with
  | error failure => exact ⟨h, rfl⟩
  | ok _ =>
      simp only
      split
      · exact ⟨h, rfl⟩
      · exact ⟨⟨rfl, rfl, rfl⟩, rfl⟩

/-!
# Effects on parts with one lower triangle
-/

section

variable (hreads : numerics.serial.ReadsLower) (hsquare : w.block.rows = w.block.cols)
  (hlower : w.block.SameLower v.block)
  (hw : w.state = .matrix ∧ w.property = .symmetric)
  (hv : v.state = .matrix ∧ v.property = .symmetric) (p : Precision)

include hreads hsquare hlower hw hv

theorem choleskyEffect_of_sameLower :
    (exists status : Int, status ≠ 0 ∧
      w.choleskyEffect numerics p = .refuse w (.numerical ⟨"potrf", status⟩) ∧
      v.choleskyEffect numerics p = .refuse v (.numerical ⟨"potrf", status⟩)) ∨
    (w.choleskyEffect numerics p).Alike (v.choleskyEffect numerics p) ∧
      (w.choleskyEffect numerics p).result = .ok () ∧
      (w.choleskyEffect numerics p).part.state = .cholesky ∧
      (w.choleskyEffect numerics p).part.property = .lowerTriangular := by
  rcases hreads.factor p w.block v.block hsquare hlower with ⟨hstatus, hmatrix⟩
  rw [choleskyEffect_of_symmetric hw, choleskyEffect_of_symmetric hv, ← hstatus]
  by_cases hzero : (numerics.serial.factor p .lower w.block).status = 0
  · rw [if_neg (not_not_intro hzero), if_neg (not_not_intro hzero)]
    -- The factors agree in their lower triangles only, and these are all that is stored.
    exact Or.inr ⟨⟨⟨(hmatrix hzero).lowerPart_eq, rfl, rfl⟩, rfl⟩, rfl, rfl, rfl⟩
  · rw [if_pos hzero, if_pos hzero]
    exact Or.inl ⟨_, hzero, rfl, rfl⟩

theorem eigenEffect_of_sameLower (vectors : Bool) :
    (w.eigenEffect numerics p vectors).result = (v.eigenEffect numerics p vectors).result ∧
      forall values, vectors = true -> (w.eigenEffect numerics p vectors).result = .ok values ->
        (w.eigenEffect numerics p vectors).part.Alike (v.eigenEffect numerics p vectors).part ∧
        (w.eigenEffect numerics p vectors).part.state = .eigenvectors ∧
        (w.eigenEffect numerics p vectors).part.property = .general := by
  rcases hreads.eigen p vectors w.block v.block hsquare hlower with ⟨hstatus, hspectrum⟩
  rw [eigenEffect_of_symmetric hw, eigenEffect_of_symmetric hv, ← hstatus]
  by_cases hzero : (numerics.serial.eigen p vectors .lower w.block).status = 0
  · rw [if_neg (not_not_intro hzero), if_neg (not_not_intro hzero)]
    rcases hspectrum hzero with ⟨hvalues, hvectors⟩
    refine ⟨congrArg Except.ok hvalues, ?_⟩
    rintro values rfl _
    exact ⟨⟨hvectors rfl, rfl, rfl⟩, rfl, rfl⟩
  · rw [if_pos hzero, if_pos hzero]
    refine ⟨rfl, ?_⟩
    intro values _ hok
    cases hok

end

end Part

/-!
# Two matrices
-/

namespace DistributedMatrix

def StoreAlike (a b : DistributedMatrix n alpha) (state : State) (property : Property) : Prop :=
  exists z, a.Stores state z ∧ b.Stores state z ∧
    forall r, (a.part r).property = property ∧ (b.part r).property = property

variable {a b : DistributedMatrix n alpha} {w v : Part alpha}
  {numerics : Numerics delta alpha rho}

theorem storeAlike_of_holds (hopenA : a.layout.grid.released = false)
    (hopenB : b.layout.grid.released = false) (ha : a.Holds w) (hb : b.Holds v)
    (h : w.Alike v) : a.StoreAlike b w.state w.property := by
  have hstored := stores_of_holds hopenB hb
  rw [← h.block, ← h.state] at hstored
  refine ⟨w.block, stores_of_holds hopenA ha, hstored, fun r => ⟨?_, ?_⟩⟩
  · rw [ha.parts r]
    rfl
  · rw [hb.parts r, h.property]
    rfl

/-- Content with a property on all processes is held as a whole that has this property. -/
theorem holds_of_property (hopen : a.layout.grid.released = false)
    (hsquare : a.layout.rows = a.layout.cols) {state : State} {x : Dense alpha}
    (h : a.Stores state x) {property : Property}
    (hproperty : forall r, (a.part r).property = property) :
    exists w, a.Holds w ∧ w.block = x ∧ w.state = state ∧ w.property = property := by
  rcases holds_of_stores hopen hsquare h with ⟨w, hw, hblock, hstate, hown⟩
  exact ⟨w, hw, hblock, hstate,
    (hown a.layout.grid.first).trans (hproperty a.layout.grid.first)⟩

/-- What calls of two matrices of one layout leave, if they show alike effects. -/
theorem alike_after {beta : Type} (hlayout : b.layout = a.layout)
    (hopen : a.layout.grid.released = false) {repliesA repliesB : Replies n alpha beta}
    {e f : Effect alpha beta} (hfitsE : e.part.Fits a.layout.rows a.layout.cols)
    (hfitsF : f.part.Fits a.layout.rows a.layout.cols)
    (hshowsA : forall r, (repliesA.get r).Shows a.layout r e)
    (hshowsB : forall r, (repliesB.get r).Shows a.layout r f) (h : e.part.Alike f.part) :
    (a.after repliesA).Holds e.part ∧ (b.after repliesB).Holds f.part ∧
      (a.after repliesA).StoreAlike (b.after repliesB) e.part.state e.part.property := by
  have hopenB : b.layout.grid.released = false := by rw [hlayout, hopen]
  have hholdsA := holds_after hfitsE fun r => (hshowsA r).1
  have hholdsB : (b.after repliesB).Holds f.part := by
    rw [← hlayout] at hfitsF hshowsB
    exact holds_after hfitsF fun r => (hshowsB r).1
  exact ⟨hholdsA, hholdsB, storeAlike_of_holds (a := a.after repliesA) (b := b.after repliesB)
    hopen hopenB hholdsA hholdsB h⟩

section

variable (hlayout : b.layout = a.layout) (hopen : a.layout.grid.released = false)
  (ha : a.Holds w) (hb : b.Holds v)

include hlayout hopen ha hb

/-!
# From alike parts
-/

theorem invert_of_alike (hshape : numerics.serial.KeepsShape) (h : w.Alike v) :
    (forall r, ((a.invert numerics).get r).result = ((b.invert numerics).get r).result) ∧
      exists state property,
        (a.after (a.invert numerics)).StoreAlike (b.after (b.invert numerics)) state property := by
  have hopenB : b.layout.grid.released = false := by rw [hlayout, hopen]
  have hshowsA := fun r => shows_invert hopen ha hshape r
  have hshowsB := fun r => shows_invert hopenB hb hshape r
  have hfitsA := Part.fits_invertEffect hshape ha.fits a.layout.precision
  have hfitsB := Part.fits_invertEffect hshape hb.fits b.layout.precision
  rw [hlayout] at hshowsB hfitsB
  have heffects := Part.alike_invertEffect numerics h a.layout.precision
  constructor
  · intro r
    rw [(hshowsA r).2, (hshowsB r).2, heffects.result]
  · exact ⟨_, _, (alike_after hlayout hopen hfitsA hfitsB hshowsA hshowsB heffects.part).2.2⟩

omit hopen in
/-- The norms do not have to be good ones, or the same on all processes. -/
theorem condition_of_alike [Zero rho] [Measure rho] (h : w.Alike v) (norm : PerProcess n rho)
    (r : Fin n) :
    ((a.condition numerics norm).get r).result =
      ((b.condition numerics norm).get r).result := by
  have hparts : forall s, (a.part s).Alike (b.part s) := by
    intro s
    rw [ha.parts s, hb.parts s, hlayout]
    exact ⟨congrArg (a.layout.piece · s) h.block, h.state, h.property⟩
  have hargs : a.conditionArgs norm = b.conditionArgs norm := by
    apply PerProcess.ext
    intro s
    unfold conditionArgs operand
    rw [PerProcess.get_ofFn, PerProcess.get_ofFn, (hparts s).block, hlayout]
  unfold condition
  simp only [PerProcess.get_ofFn]
  rw [Part.requireState_of_alike (hparts r), hargs, hlayout]
  unfold Reply.guarded
  cases (b.part r).requireState .condition with
  | error failure => rfl
  | ok _ =>
      simp only
      split
      · rfl
      · rfl

/-!
# From one lower triangle
-/

section

variable (hshape : numerics.serial.KeepsShape) (hreads : numerics.serial.ReadsLower)
  (hsquare : w.block.rows = w.block.cols) (hlower : w.block.SameLower v.block)
  (hw : w.state = .matrix ∧ w.property = .symmetric)
  (hv : v.state = .matrix ∧ v.property = .symmetric)

include hshape hreads hsquare hlower hw hv

/-- Both factorizations fail with one status, or both leave alike parts. -/
theorem cholesky_of_sameLower :
    (exists status, status ≠ 0 ∧ forall r,
      ((a.cholesky numerics).get r).result = .error (.numerical ⟨"potrf", status⟩) ∧
      ((b.cholesky numerics).get r).result = .error (.numerical ⟨"potrf", status⟩)) ∨
    (forall r, ((a.cholesky numerics).get r).result = .ok () ∧
      ((b.cholesky numerics).get r).result = .ok ()) ∧
    (a.after (a.cholesky numerics)).StoreAlike (b.after (b.cholesky numerics))
      .cholesky .lowerTriangular ∧
    exists u t, (a.after (a.cholesky numerics)).Holds u ∧
      (b.after (b.cholesky numerics)).Holds t ∧ u.Alike t := by
  have hopenB : b.layout.grid.released = false := by rw [hlayout, hopen]
  have hshowsA := fun r => shows_cholesky hopen ha hshape r
  have hshowsB := fun r => shows_cholesky hopenB hb hshape r
  have hfitsA := Part.fits_choleskyEffect hshape ha.fits a.layout.precision
  have hfitsB := Part.fits_choleskyEffect hshape hb.fits b.layout.precision
  rw [hlayout] at hshowsB hfitsB
  rcases Part.choleskyEffect_of_sameLower hreads hsquare hlower hw hv a.layout.precision with
    ⟨status, hne, hrefusedA, hrefusedB⟩ | ⟨halike, hdone, hstate, hproperty⟩
  · refine Or.inl ⟨status, hne, fun r => ⟨?_, ?_⟩⟩
    · rw [(hshowsA r).2, hrefusedA]
      rfl
    · rw [(hshowsB r).2, hrefusedB]
      rfl
  · rcases alike_after hlayout hopen hfitsA hfitsB hshowsA hshowsB halike.part with
      ⟨hholdsA, hholdsB, hstored⟩
    rw [hstate, hproperty] at hstored
    refine Or.inr ⟨fun r => ⟨?_, ?_⟩, hstored, _, _, hholdsA, hholdsB, halike.part⟩
    · rw [(hshowsA r).2, hdone]
    · rw [(hshowsB r).2, ← halike.result, hdone]

theorem eigen_of_sameLower (vectors : Bool) :
    (forall r, ((a.eigen numerics vectors).get r).result =
      ((b.eigen numerics vectors).get r).result) ∧
    (forall r values, vectors = true -> ((a.eigen numerics vectors).get r).result = .ok values ->
      (a.after (a.eigen numerics vectors)).StoreAlike (b.after (b.eigen numerics vectors))
        .eigenvectors .general) := by
  have hopenB : b.layout.grid.released = false := by rw [hlayout, hopen]
  have hshowsA := fun r => shows_eigen hopen ha hshape vectors r
  have hshowsB := fun r => shows_eigen hopenB hb hshape vectors r
  have hfitsA := Part.fits_eigenEffect hshape ha.fits a.layout.precision vectors
  have hfitsB := Part.fits_eigenEffect hshape hb.fits b.layout.precision vectors
  rw [hlayout] at hshowsB hfitsB
  rcases Part.eigenEffect_of_sameLower hreads hsquare hlower hw hv a.layout.precision vectors
    with ⟨hresult, hspectrum⟩
  constructor
  · intro r
    rw [(hshowsA r).2, (hshowsB r).2, hresult]
  · intro r values hvectors hvalues
    rw [(hshowsA r).2] at hvalues
    rcases hspectrum values hvectors hvalues with ⟨halike, hstate, hproperty⟩
    have hstored := (alike_after hlayout hopen hfitsA hfitsB hshowsA hshowsB halike).2.2
    rwa [hstate, hproperty] at hstored

end

end

/-!
# Two runs
-/

/--
Two symmetric contents of one layout that agree from the diagonal down are factored with one
outcome. If that is a factor, both runs store the same matrix, estimate its condition alike,
and invert it alike. Their eigenvalues, or the failures to find them, are the same, and so
are the eigenvectors that they store.
-/
theorem upper_triangle_unread [Zero rho] [Measure rho] (numerics : Numerics delta alpha rho)
    (hshape : numerics.serial.KeepsShape) (hreads : numerics.serial.ReadsLower)
    {a b : DistributedMatrix n alpha} (hlayout : b.layout = a.layout)
    (hopen : a.layout.grid.released = false) (hsquare : a.layout.rows = a.layout.cols)
    {x y : Dense alpha} (ha : a.Stores .matrix x) (hb : b.Stores .matrix y)
    (hpropertyA : forall r, (a.part r).property = .symmetric)
    (hpropertyB : forall r, (b.part r).property = .symmetric) (hlower : x.SameLower y) :
    let c := a.after (a.cholesky numerics)
    let d := b.after (b.cholesky numerics)
    ((exists status, status ≠ 0 ∧ forall r,
        ((a.cholesky numerics).get r).result = .error (.numerical ⟨"potrf", status⟩) ∧
        ((b.cholesky numerics).get r).result = .error (.numerical ⟨"potrf", status⟩)) ∨
      (forall r, ((a.cholesky numerics).get r).result = .ok () ∧
        ((b.cholesky numerics).get r).result = .ok ()) ∧
      c.StoreAlike d .cholesky .lowerTriangular ∧
      (forall (norm : PerProcess n rho) r,
        ((c.condition numerics norm).get r).result =
          ((d.condition numerics norm).get r).result) ∧
      (forall r, ((c.invert numerics).get r).result = ((d.invert numerics).get r).result) ∧
      exists state property,
        (c.after (c.invert numerics)).StoreAlike (d.after (d.invert numerics)) state property) ∧
    (forall vectors r,
      ((a.eigen numerics vectors).get r).result = ((b.eigen numerics vectors).get r).result) ∧
    (forall r values, ((a.eigen numerics true).get r).result = .ok values ->
      (a.after (a.eigen numerics true)).StoreAlike (b.after (b.eigen numerics true))
        .eigenvectors .general) := by
  intro c d
  have hopenB : b.layout.grid.released = false := by rw [hlayout, hopen]
  have hsquareB : b.layout.rows = b.layout.cols := by rw [hlayout, hsquare]
  have horder := shape_of_stores hopen hsquare ha
  rcases holds_of_property hopen hsquare ha hpropertyA with ⟨w, hw, rfl, hstateW, hsymmetricW⟩
  rcases holds_of_property hopenB hsquareB hb hpropertyB with
    ⟨v, hv, rfl, hstateV, hsymmetricV⟩
  have horderW : w.block.rows = w.block.cols := horder.1.trans horder.2.symm
  have heigen := eigen_of_sameLower hlayout hopen hw hv hshape hreads horderW hlower
    ⟨hstateW, hsymmetricW⟩ ⟨hstateV, hsymmetricV⟩
  refine ⟨?_, fun vectors => (heigen vectors).1,
    fun r values hvalues => (heigen true).2 r values rfl hvalues⟩
  rcases cholesky_of_sameLower hlayout hopen hw hv hshape hreads horderW hlower
    ⟨hstateW, hsymmetricW⟩ ⟨hstateV, hsymmetricV⟩ with
    hfailed | ⟨hdone, hstored, u, t, hu, ht, halike⟩
  · exact Or.inl hfailed
  · refine Or.inr ⟨hdone, hstored, ?_, ?_⟩
    · intro norm r
      exact condition_of_alike (a := c) (b := d) hlayout hu ht halike norm r
    · exact invert_of_alike (a := c) (b := d) hlayout hopen hu ht hshape halike

/-- Two rows on two of three processes, with other entries above the same diagonal. -/
theorem upper_triangle_unread_unit :
    let l : Layout 3 :=
      { grid := ⟨2, 1, by decide, by decide, by decide, fun _ => 0, false⟩
        rows := 2, cols := 2, rowBlock := 1, colBlock := 2, precision := .double
        rows_pos := by decide, cols_pos := by decide
        rowBlock_pos := by decide, colBlock_pos := by decide }
    let numerics : Numerics Int Int Int := { exactNumerics with serial := unitLowerKernels }
    let x : Dense Int := Dense.ofFn 2 2 fun i j => if i < j then 7 else if i = j then 1 else 0
    let y : Dense Int := Dense.ofFn 2 2 fun i j => if i < j then -2 else if i = j then 1 else 0
    let a : DistributedMatrix 3 Int :=
      ⟨l, Vector.ofFn fun r => ⟨l.piece x r, .matrix, .symmetric, .symmetric⟩⟩
    let b : DistributedMatrix 3 Int :=
      ⟨l, Vector.ofFn fun r => ⟨l.piece y r, .matrix, .symmetric, .general⟩⟩
    let c := a.after (a.cholesky numerics)
    let d := b.after (b.cholesky numerics)
    a.Stores .matrix x ∧ b.Stores .matrix y ∧ x.get 0 1 = 7 ∧ y.get 0 1 = -2 ∧
    x.SameLower y ∧ ((a.cholesky numerics).get 0).result = .ok () ∧
    c.StoreAlike d .cholesky .lowerTriangular ∧
    ((d.condition numerics #v[1, 1, 1]).get 2).result =
      ((c.condition numerics #v[1, 1, 1]).get 2).result ∧
    (a.after (a.eigen numerics true)).StoreAlike (b.after (b.eigen numerics true))
      .eigenvectors .general := by
  intro l numerics x y a b c d
  have hholds : a.Holds ⟨x, .matrix, .symmetric, .symmetric⟩ :=
    ⟨⟨rfl, rfl, fun _ => rfl, fun _ => rfl, fun _ => rfl⟩, fun r => PerProcess.get_ofFn _ r⟩
  have hstored : a.Stores .matrix x := stores_of_holds rfl hholds
  have hother : b.Stores .matrix y :=
    stores_of_holds (w := ⟨y, .matrix, .symmetric, .general⟩) rfl
      ⟨⟨rfl, rfl, fun _ => rfl, fun _ => rfl, fun _ => rfl⟩,
        fun r => PerProcess.get_ofFn _ r⟩
  have hpropertyA : forall r, (a.part r).property = .symmetric := by decide
  have hpropertyB : forall r, (b.part r).property = .symmetric := by decide
  have hlower : x.SameLower y := by
    refine ⟨rfl, rfl, ?_⟩
    intro i j _ _ hle
    have habove : ¬ i < j := Nat.not_lt.mpr hle
    rw [Dense.get_ofFn, Dense.get_ofFn, if_neg habove, if_neg habove]
  have hlayout : b.layout = a.layout := rfl
  have hopen : a.layout.grid.released = false := rfl
  have hsquare : a.layout.rows = a.layout.cols := rfl
  rcases upper_triangle_unread numerics unitLowerKernels_keepsShape unitLowerKernels_readsLower
    hlayout hopen hsquare hstored hother hpropertyA hpropertyB hlower with
    ⟨hfactored, _, hvectors⟩
  have hshape : numerics.serial.KeepsShape := unitLowerKernels_keepsShape
  have hdone := (stores_cholesky hshape hopen hsquare hstored hpropertyA
    (by decide +kernel)).1
  have hspectrum : (numerics.serial.eigen .double true .lower x).status = 0 := by
    decide +kernel
  have hsolved := (shows_eigen hopen hholds hshape true 0).2
  rw [Part.eigenEffect_of_symmetric ⟨rfl, rfl⟩, if_neg (not_not_intro hspectrum)] at hsolved
  rcases hfactored with ⟨_, _, hfailed⟩ | ⟨_, hfactor, hcondition, _⟩
  · have hfirst := (hfailed 0).1
    rw [hdone 0] at hfirst
    cases hfirst
  · have hestimates := hcondition #v[1, 1, 1] 2
    exact ⟨hstored, hother, by decide +kernel, by decide +kernel, hlower, hdone 0, hfactor,
      hestimates.symm, hvectors 0 _ hsolved⟩

end DistributedMatrix
end BlockCyclic
