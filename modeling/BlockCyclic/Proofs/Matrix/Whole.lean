import BlockCyclic.Matrix.Factor
import BlockCyclic.Matrix.Load
import BlockCyclic.Proofs.Grid.Messages
import BlockCyclic.Proofs.Matrix.Pieces

/-!
# Whole matrices

A distributed matrix holds one whole matrix, of which every process keeps its piece. What
an operation means is its effect on the whole, where nothing is distributed: the serial
kernels see it as it is.
-/

namespace BlockCyclic

variable {n : Nat} {delta alpha rho beta gamma : Type}

/-!
# Triangles of a matrix
-/

namespace Dense

variable [Zero alpha]

def lowerPart (x : Dense alpha) : Dense alpha :=
  x.mapPlaces fun i j value => if i < j then 0 else value

/-- The symmetric matrix that the lower triangle determines. -/
def mirrored (x : Dense alpha) : Dense alpha :=
  x.mapPlaces fun i j value => if i < j then x.get j i else value

variable {x : Dense alpha} {i j : Nat} (hi : i < x.rows) (hj : j < x.cols)

include hi hj

theorem get_lowerPart : x.lowerPart.get i j = if i < j then 0 else x.get i j := by
  unfold lowerPart
  rw [get_mapPlaces, if_pos ⟨hi, hj⟩]

theorem get_mirrored : x.mirrored.get i j = if i < j then x.get j i else x.get i j := by
  unfold mirrored
  rw [get_mapPlaces, if_pos ⟨hi, hj⟩]

theorem get_mirrored_comm (hsquare : x.rows = x.cols) :
    x.mirrored.get i j = x.mirrored.get j i := by
  rw [get_mirrored hi hj, get_mirrored (hsquare ▸ hj) (hsquare ▸ hi)]
  rcases Nat.lt_trichotomy i j with hlt | heq | hgt
  · rw [if_pos hlt, if_neg (Nat.lt_asymm hlt)]
  · rw [heq]
  · rw [if_neg (Nat.lt_asymm hgt), if_pos hgt]

end Dense

/-!
# Effects on a whole matrix
-/

structure Effect (alpha beta : Type) where
  part : Part alpha
  result : Except Failure beta

namespace Effect

def refuse (w : Part alpha) (failure : Failure) : Effect alpha beta :=
  ⟨w, .error failure⟩

def guarded (w : Part alpha) (refusal : Except Failure Unit) (e : Effect alpha beta) :
    Effect alpha beta :=
  match refusal with
  | .ok _ => e
  | .error failure => refuse w failure

def map (f : beta -> gamma) (e : Effect alpha beta) : Effect alpha gamma :=
  ⟨e.part, e.result.map f⟩

end Effect

namespace Part

/-- A whole matrix of a shape, whose properties that shape allows. -/
structure Fits (w : Part alpha) (m k : Nat) : Prop where
  rows : w.block.rows = m
  cols : w.block.cols = k
  symmetric : w.property = .symmetric -> m = k
  freshSymmetric : w.freshProperty = .symmetric -> m = k
  cholesky : w.state = .cholesky -> m = k

/-- A refusal changes nothing, so that only an allowed effect has to be looked at. -/
theorem fits_guarded {w : Part alpha} {m k : Nat} (h : w.Fits m k)
    {refusal : Except Failure Unit} {e : Effect alpha beta}
    (heffect : refusal = .ok () -> e.part.Fits m k) :
    (Effect.guarded w refusal e).part.Fits m k := by
  unfold Effect.guarded
  cases hallowed : refusal with
  | error failure => exact h
  | ok _ => exact heffect hallowed

def piece [Zero alpha] (w : Part alpha) (l : Layout n) (r : Fin n) : Part alpha :=
  { w with block := l.piece w.block r }

end Part

def Dense.Sized (x : Dense alpha) (shape : Nat × Nat) : Prop :=
  x.rows = shape.1 ∧ x.cols = shape.2

def DistributedMatrix.Shaped (a : DistributedMatrix n alpha) : Prop :=
  forall r, (a.part r).block.Sized (a.layout.localShape r)

/-- Every process keeps its piece of a whole matrix that fits the layout. -/
structure DistributedMatrix.Holds [Zero alpha] (a : DistributedMatrix n alpha)
    (w : Part alpha) : Prop where
  fits : w.Fits a.layout.rows a.layout.cols
  parts : forall r, a.part r = w.piece a.layout r

/-- A process keeps its piece of what an effect leaves, and gives its result. -/
def Reply.Shows [Zero alpha] (l : Layout n) (r : Fin n) (reply : Reply alpha beta)
    (e : Effect alpha beta) : Prop :=
  reply.part = e.part.piece l r ∧ reply.result = e.result

/-!
# The whole that blocks make up
-/

namespace DistributedMatrix

variable [Zero alpha] {a : DistributedMatrix n alpha} {w : Part alpha}

def whole (a : DistributedMatrix n alpha) : Dense alpha :=
  a.layout.grid.assemble a.layout.distribution a.blocks

theorem rows_whole (a : DistributedMatrix n alpha) : a.whole.rows = a.layout.rows :=
  Grid.rows_assemble.trans a.layout.rows_distribution

theorem cols_whole (a : DistributedMatrix n alpha) : a.whole.cols = a.layout.cols :=
  Grid.cols_assemble.trans a.layout.cols_distribution

theorem rows_whole_pos (a : DistributedMatrix n alpha) : 0 < a.whole.rows := by
  rw [rows_whole]
  exact a.layout.rows_pos

theorem square_whole (a : DistributedMatrix n alpha) (hsquare : a.layout.rows = a.layout.cols) :
    a.whole.rows = a.whole.cols := by
  rw [rows_whole, cols_whole, hsquare]

omit [Zero alpha] in
theorem get_blocks_eq (a : DistributedMatrix n alpha) (r : Fin n) :
    a.blocks.get r = (a.part r).block := by
  unfold blocks part
  rw [PerProcess.get_map]

theorem pieces_of_shaped (h : a.Shaped) (r : Fin n) :
    a.blocks.get r = a.layout.piece a.whole r := by
  apply Layout.eq_piece_assemble
  · intro s
    rw [get_blocks_eq]
    exact (h s).1
  · intro s
    rw [get_blocks_eq]
    exact (h s).2

theorem get_gathered_of_shaped (hopen : a.layout.grid.released = false) (h : a.Shaped)
    (r : Fin n) :
    a.gathered.get r = if r = a.layout.grid.first then some a.whole else none := by
  unfold gathered
  by_cases hfirst : r = a.layout.grid.first
  · have hactive : a.layout.grid.active r = true := by
      rw [hfirst]
      exact a.layout.grid.active_first
    rw [Grid.get_gather a.layout.onGrid hopen hactive rfl
      (Layout.holdsPieces_of_pieces (pieces_of_shaped h))]
    rfl
  · rw [Grid.get_gather_of_other hopen hfirst, if_neg hfirst]

/-!
# Matrices that hold a whole
-/

theorem shaped_of_holds (h : a.Holds w) : a.Shaped := by
  intro r
  rw [h.parts r]
  exact ⟨a.layout.rows_piece w.block r, a.layout.cols_piece w.block r⟩

theorem get_blocks (h : a.Holds w) (r : Fin n) :
    a.blocks.get r = a.layout.piece w.block r := by
  rw [get_blocks_eq, h.parts r]
  rfl

theorem whole_of_holds (h : a.Holds w) : a.whole = w.block :=
  Layout.assemble_pieces h.fits.rows h.fits.cols (get_blocks h)

theorem get_gathered (hopen : a.layout.grid.released = false) (h : a.Holds w)
    (r : Fin n) :
    a.gathered.get r = if r = a.layout.grid.first then some w.block else none := by
  rw [get_gathered_of_shaped hopen (shaped_of_holds h), whole_of_holds h]

theorem holds_blank (l : Layout n) {property : Property}
    (hproperty : property = .symmetric -> l.rows = l.cols) :
    (blank l property : DistributedMatrix n alpha).Holds
      { block := Dense.zeros l.rows l.cols
        state := .uninitialized
        property := property
        freshProperty := property } where
  fits :=
    { rows := rfl
      cols := rfl
      symmetric := hproperty
      freshSymmetric := hproperty
      cholesky := fun h => by cases h }
  parts := by
    intro r
    have hzeros : Dense.zeros (l.localShape r).1 (l.localShape r).2 =
        l.piece (Dense.zeros l.rows l.cols : Dense alpha) r := by
      apply l.eq_piece rfl rfl
      intro i j _ _
      rw [Dense.get_zeros, Dense.get_zeros]
    unfold part blank Part.piece
    rw [PerProcess.get_ofFn, hzeros]

theorem holds_after {replies : Replies n alpha beta} {e : Effect alpha beta}
    (hfits : e.part.Fits a.layout.rows a.layout.cols)
    (h : forall r, (replies.get r).part = e.part.piece a.layout r) :
    (a.after replies).Holds e.part where
  fits := hfits
  parts := by
    intro r
    unfold part after
    rw [PerProcess.get_map]
    exact h r

theorem shows_guarded (h : a.Holds w) (refusal : Part alpha -> Except Failure Unit)
    (r : Fin n) (hrefusal : refusal (w.piece a.layout r) = refusal w)
    {reply : Reply alpha beta} {e : Effect alpha beta}
    (hreply : refusal w = .ok () -> reply.Shows a.layout r e) :
    (Reply.guarded (a.part r) (refusal (a.part r)) reply).Shows a.layout r
      (Effect.guarded w (refusal w) e) := by
  rw [h.parts r, hrefusal]
  unfold Reply.guarded Effect.guarded
  cases hw : refusal w with
  | ok _ => exact hreply hw
  | error failure => exact ⟨rfl, rfl⟩

end DistributedMatrix
end BlockCyclic
