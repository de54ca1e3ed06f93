import BlockCyclic.Matrix.Request

/-!
# What a request makes

The checks of a request look at its shape, its blocks and its options, never at the grid.
A request that passes them makes a blank matrix of the checked sizes on the grid that it
is made for.
-/

namespace BlockCyclic

variable {n : Nat} {alpha beta gamma : Type}

theorem Except.bind_eq_ok {x : Except Failure alpha} {f : alpha -> Except Failure beta}
    {y : beta} :
    (x >>= f) = .ok y ↔ exists a, x = .ok a ∧ f a = .ok y := by
  cases x with
  | error failure =>
      constructor
      · intro h
        cases h
      · rintro ⟨a, ha, _⟩
        cases ha
  | ok a =>
      constructor
      · intro h
        exact ⟨a, rfl, h⟩
      · rintro ⟨b, hb, hf⟩
        cases hb
        exact hf

/-!
# Properties that are granted

A property has to be named, and to suit the shape of the matrix; only where content is
loaded may it be left open.
-/

namespace Layout

variable {l : Layout n}

def Allows (l : Layout n) (property : Property) : Prop :=
  property = .symmetric -> l.rows = l.cols

theorem given_of_demandProperty {choice : PropertyChoice} {property : Property}
    (h : l.demandProperty choice = .ok property) :
    choice = .given property ∧ l.Allows property := by
  cases choice with
  | unspecified => cases h
  | unknown => cases h
  | given chosen =>
      unfold demandProperty checkProperty at h
      simp only at h
      by_cases hfault : chosen = .symmetric ∧ l.rows ≠ l.cols
      · rw [if_pos hfault] at h
        cases h
      · rw [if_neg hfault] at h
        cases h
        constructor
        · rfl
        · intro hsymmetric
          exact Decidable.byContradiction fun hne => hfault ⟨hsymmetric, hne⟩

theorem given_of_propertyFrom {choice : PropertyChoice} {chosen : Option Property}
    (h : l.propertyFrom choice = .ok chosen) :
    (choice = .unspecified ∧ chosen = none) ∨
      exists property, choice = .given property ∧ chosen = some property ∧
        l.Allows property := by
  cases choice with
  | unspecified =>
      cases h
      exact Or.inl ⟨rfl, rfl⟩
  | unknown => cases h
  | given named =>
      change (l.demandProperty (.given named)).map some = _ at h
      cases hdemand : l.demandProperty (.given named) with
      | error failure =>
          rw [hdemand] at h
          cases h
      | ok granted =>
          rw [hdemand] at h
          cases h
          rcases given_of_demandProperty hdemand with ⟨hnamed, hallowed⟩
          exact Or.inr ⟨granted, hnamed, rfl, hallowed⟩

end Layout

/-!
# Checked sizes
-/

theorem Size.pos_of_positive? {e : SizeEntry} {k : Nat} (h : positive? e = some k) :
    0 < k := by
  unfold positive? at h
  split at h
  · rename_i i _
    by_cases hi : 1 ≤ i
    · rw [if_pos hi] at h
      cases h
      exact Int.pos_iff_toNat_pos.mp hi
    · rw [if_neg hi] at h
      cases h
  · cases h

theorem Size.pos_of_positivePair? {s : Size} {p : Nat × Nat}
    (h : positivePair? s = some p) :
    0 < p.1 ∧ 0 < p.2 := by
  unfold positivePair? at h
  split at h
  · split at h
    · rename_i hm hk
      cases h
      exact ⟨pos_of_positive? hm, pos_of_positive? hk⟩
    · cases h
  · cases h

namespace MatrixRequest

variable {q : MatrixRequest} {settings : Settings} {grid : Grid n} {shape : Argument}

theorem pos_of_checkShape {extents : Nat × Nat} (h : checkShape shape = .ok extents) :
    0 < extents.1 ∧ 0 < extents.2 := by
  unfold checkShape at h
  rcases Except.bind_eq_ok.mp h with ⟨size, _, h⟩
  split at h
  · rename_i p hp
    cases h
    exact Size.pos_of_positivePair? hp
  · cases h

theorem pos_of_checkBlocks {blocks : Argument} {sizes : Nat × Nat}
    (h : checkBlocks settings blocks = .ok sizes) :
    0 < sizes.1 ∧ 0 < sizes.2 := by
  unfold checkBlocks at h
  rcases Except.bind_eq_ok.mp h with ⟨size, _, h⟩
  split at h
  · rename_i p hp
    cases h
    exact Size.pos_of_positivePair? hp
  · cases h

/-!
# The layout of a request
-/

theorem layout_of_pos {extents blocks : Nat × Nat}
    (hextents : 0 < extents.1 ∧ 0 < extents.2) (hblocks : 0 < blocks.1 ∧ 0 < blocks.2)
    (precision : Precision) :
    layout grid extents blocks precision =
      .ok
        { grid := grid
          rows := extents.1
          cols := extents.2
          rowBlock := blocks.1
          colBlock := blocks.2
          precision := precision
          rows_pos := hextents.1
          cols_pos := hextents.2
          rowBlock_pos := hblocks.1
          colBlock_pos := hblocks.2 } := by
  unfold layout
  rw [dif_pos ⟨hextents.1, hextents.2, hblocks.1, hblocks.2⟩]

theorem grid_of_layout {extents blocks : Nat × Nat} {precision : Precision} {l : Layout n}
    (h : layout grid extents blocks precision = .ok l) :
    l.grid = grid := by
  unfold layout at h
  split at h
  · cases h
    rfl
  · cases h

/-- The property of a new matrix is the one that its request gives, and suits its shape. -/
theorem granted_of_outline {l : Layout n} {property : Property}
    (h : q.outline settings grid shape = .ok (l, property)) :
    l.grid = grid ∧ initialProperty shape q.property = .given property ∧
      l.Allows property := by
  unfold outline at h
  rcases Except.bind_eq_ok.mp h with ⟨extents, _, h⟩
  rcases Except.bind_eq_ok.mp h with ⟨blocks, _, h⟩
  rcases Except.bind_eq_ok.mp h with ⟨precision, _, h⟩
  rcases Except.bind_eq_ok.mp h with ⟨made, hmade, h⟩
  rcases Except.bind_eq_ok.mp h with ⟨chosen, hchosen, h⟩
  cases h
  exact ⟨grid_of_layout hmade, Layout.given_of_demandProperty hchosen⟩

/-- A request that makes a matrix has passed its checks, the one of its backend included. -/
theorem outline_of_create [Zero alpha] {made : Created n alpha}
    (h : q.create settings grid shape = .ok made) :
    exists property, q.outline settings grid shape = .ok (made.matrix.layout, property) ∧
      q.chosenBackend settings = .ok made.backend ∧
      made.matrix = .blank made.matrix.layout property := by
  unfold create at h
  cases hplan : q.plan settings grid shape with
  | error failure =>
      rw [hplan] at h
      cases h
  | ok plan =>
      rw [hplan] at h
      cases h
      unfold MatrixRequest.plan at hplan
      rcases Except.bind_eq_ok.mp hplan with ⟨⟨l, property⟩, houtline, hplan⟩
      rcases Except.bind_eq_ok.mp hplan with ⟨backend, hbackend, hplan⟩
      cases hplan
      exact ⟨property, houtline, hbackend, rfl⟩

theorem granted_of_create [Zero alpha] {made : Created n alpha}
    (h : q.create settings grid shape = .ok made) :
    made.matrix.layout.grid = grid ∧
      exists property, initialProperty shape q.property = .given property ∧
        made.matrix.layout.Allows property ∧
        made.matrix = .blank made.matrix.layout property := by
  rcases outline_of_create h with ⟨property, houtline, _, hblank⟩
  rcases granted_of_outline houtline with ⟨hgrid, hinitial, hallowed⟩
  exact ⟨hgrid, property, hinitial, hallowed, hblank⟩

theorem matrix_of_create [Zero alpha] {made : Created n alpha}
    (h : q.create settings grid shape = .ok made) :
    made.matrix.layout.grid = grid ∧
      exists property, made.matrix = .blank made.matrix.layout property := by
  rcases granted_of_create h with ⟨hgrid, property, _, _, hblank⟩
  exact ⟨hgrid, property, hblank⟩

end MatrixRequest
end BlockCyclic
