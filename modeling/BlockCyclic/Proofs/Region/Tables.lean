import BlockCyclic.Distribution
import BlockCyclic.Distribution.Numbers
import BlockCyclic.Proofs.Axis.Deal
import Mathlib.Algebra.Order.Ring.Int

/-!
# Regions computed as tables of words

The indices of a region are computed in one go for all local slots, as a table of words
that wrap silently. Where words hold the indices, and nothing larger is met on the way to
them, no result wraps, so that the table lists the exact indices.
-/

namespace BlockCyclic

/-!
# Words that do not wrap
-/

theorem Words.fits_iff {x : Int} : fits x = true ↔ -bound ≤ x ∧ x < bound := by
  unfold fits
  rw [Bool.and_eq_true, decide_eq_true_iff, decide_eq_true_iff]

theorem Words.wrap_of_fits {x : Int} (h : fits x = true) : wrap x = x := by
  rcases fits_iff.mp h with ⟨hlow, hhigh⟩
  have hbound : bound = 9223372036854775808 := by decide
  have hmodulus : ((Nat.pow 2 64 : Nat) : Int) = 18446744073709551616 := by decide
  apply Int.bmod_eq_of_le_mul_two
  · omega
  · omega

theorem Words.fits_of_le {x y : Int} (hx : 0 ≤ x) (hle : x ≤ y) (hy : fits y = true) :
    fits x = true := by
  have hbound : -bound ≤ 0 := by decide
  exact fits_iff.mpr ⟨Int.le_trans hbound hx, Int.lt_of_le_of_lt hle (fits_iff.mp hy).2⟩

theorem Number.below_int (i k : Int) : (int i).below (int k) = decide (i < k) :=
  rfl

theorem Number.same_int (i k : Int) : (int i).same (int k) = (i == k) :=
  rfl

namespace Extent

open Words

variable {i k : Int}

theorem checkWords_of_fits (hi : fits i = true) (hk : fits k = true) :
    table.checkWords (.int i) (.int k) = .ok () := by
  unfold checkWords
  simp only
  rw [hi, hk]
  rfl

theorem lift_of_fits {onInt : Int -> Int -> Int} (onReal : Float -> Float -> Float)
    (hi : fits i = true) (hk : fits k = true) (h : fits (onInt i k) = true) :
    table.lift onInt onReal (.int i) (.int k) = .ok (.int (onInt i k)) := by
  unfold lift
  rw [checkWords_of_fits hi hk]
  show Except.ok (Number.int (wrap _)) = _
  rw [wrap_of_fits h]

theorem add_of_fits (hi : fits i = true) (hk : fits k = true) (h : fits (i + k) = true) :
    table.add (.int i) (.int k) = .ok (.int (i + k)) :=
  lift_of_fits _ hi hk h

theorem mul_of_fits (hi : fits i = true) (hk : fits k = true) (h : fits (i * k) = true) :
    table.mul (.int i) (.int k) = .ok (.int (i * k)) :=
  lift_of_fits _ hi hk h

theorem divide_of_ne_zero {e : Extent} (onInt : Int -> Int -> Int)
    (onReal : Float -> Float -> Float) (hcheck : e.checkWords (.int i) (.int k) = .ok ())
    (hzero : k ≠ 0) :
    e.divide onInt onReal (.int i) (.int k) = .ok (.int (onInt i k)) := by
  have hdivisor : (decide (e = single) && isZero (.int k)) = false := by
    rw [show isZero (.int k) = false from beq_false_of_ne hzero, Bool.and_false]
  unfold divide
  rw [hcheck, hdivisor]
  rfl

theorem add_single (i k : Int) : single.add (.int i) (.int k) = .ok (.int (i + k)) :=
  rfl

theorem mul_single (i k : Int) : single.mul (.int i) (.int k) = .ok (.int (i * k)) :=
  rfl

theorem quot_single (i : Int) (hzero : k ≠ 0) :
    single.quot (.int i) (.int k) = .ok (.int (i.fdiv k)) :=
  divide_of_ne_zero _ _ rfl hzero

theorem rem_single (i : Int) (hzero : k ≠ 0) :
    single.rem (.int i) (.int k) = .ok (.int (i.fmod k)) :=
  divide_of_ne_zero _ _ rfl hzero

theorem quot_of_fits (hi : fits i = true) (hk : fits k = true) (hzero : k ≠ 0)
    (h : fits (i.fdiv k) = true) :
    table.quot (.int i) (.int k) = .ok (.int (i.fdiv k)) := by
  have hquot : Words.quot i k = i.fdiv k := by
    unfold Words.quot
    rw [if_neg hzero, wrap_of_fits h]
  rw [← hquot]
  exact divide_of_ne_zero _ _ (checkWords_of_fits hi hk) hzero

theorem rem_of_fits (hi : fits i = true) (hk : fits k = true) (hzero : k ≠ 0) :
    table.rem (.int i) (.int k) = .ok (.int (i.fmod k)) := by
  have hrem : Words.rem i k = i.fmod k := if_neg hzero
  rw [← hrem]
  exact divide_of_ne_zero _ _ (checkWords_of_fits hi hk) hzero

end Extent

theorem Except.mapM_eq_ok {alpha beta epsilon : Type} {f : alpha -> Except epsilon beta}
    {g : alpha -> beta} {xs : List alpha} (h : forall x, x ∈ xs -> f x = .ok (g x)) :
    xs.mapM f = .ok (xs.map g) := by
  induction xs with
  | nil => rfl
  | cons x rest ih =>
      rw [List.mapM_cons, h x List.mem_cons_self, ih fun y hy => h y (List.mem_cons_of_mem x hy)]
      rfl

theorem countingLength_of_room {k : Int} (hk : 0 ≤ k) (hroom : k ≤ roomForEntries) :
    countingLength k = .ok k.toNat := by
  have hlimit : (roomForEntries : Int) = 268435456 := by decide
  have hbound : Words.bound = 9223372036854775808 := by decide
  have hlength : Words.fits k = true := Words.fits_iff.mpr (by omega)
  have hbytes : Words.fits (max k 0 * 8) = true := Words.fits_iff.mpr (by omega)
  unfold countingLength
  rw [hlength, hbytes, if_neg (Int.not_lt.mpr hroom)]
  rfl

/-!
# Axes of integers
-/

namespace Axis

def numbers (a : Axis) : NumberAxis :=
  ⟨.int a.block, .int a.procs, .int a.source⟩

/-- Words hold the first `n` indices, and a table has room for those of process `p`. -/
structure Tabulated (a : Axis) (n p : Int) : Prop where
  words : a.indicesFit p = true
  bound : n ≤ Words.bound
  room : a.extent n p ≤ roomForEntries

end Axis

namespace NumberAxis

variable {a : Axis} (ha : a.Positive)

include ha

theorem offset_numbers (p : Int) :
    a.numbers.offset (.int p) = .ok (.int (a.offset p)) := by
  exact Extent.rem_single _ (Int.ne_of_gt ha.procs)

theorem extent_numbers (n p : Int) :
    a.numbers.extent (.int n) (.int p) = .ok (.int (a.extent n p)) := by
  have hblock := Int.ne_of_gt ha.block
  have hprocs := Int.ne_of_gt ha.procs
  unfold extent
  rw [offset_numbers ha]
  unfold Axis.numbers Axis.extent
  simp only [bind, Except.bind, Extent.quot_single _ hblock, Extent.quot_single _ hprocs,
    Extent.rem_single _ hblock, Extent.rem_single _ hprocs, Extent.mul_single,
    Extent.add_single, Number.below_int, Number.same_int, decide_eq_true_iff, beq_iff_eq]
  split
  · rfl
  · split
    · rfl
    · rfl

/-- No part of an index is larger than the index, so that words hold them all with it. -/
theorem index_numbers {p l : Int} (hwords : a.indicesFit p = true) (hl : 0 ≤ l)
    (hindex : Words.fits (a.index p l) = true) :
    a.numbers.index .table (.int p) (.int l) = .ok (.int (a.index p l)) := by
  have hblock := Int.ne_of_gt ha.block
  unfold Axis.indicesFit Axis.ownersFit at hwords
  rw [Bool.and_eq_true, Bool.and_eq_true] at hwords
  rcases hwords with ⟨⟨hblockFits, hprocsFits⟩, hshiftFits⟩
  have hquot : 0 ≤ l.fdiv a.block := Int.fdiv_nonneg hl (Int.le_of_lt ha.block)
  have hround : l.fdiv a.block ≤ l.fdiv a.block * a.block :=
    le_mul_of_one_le_right hquot ha.block
  have hstart : l.fdiv a.block * a.block ≤ l.fdiv a.block * a.block * a.procs :=
    le_mul_of_one_le_right (Int.le_trans hquot hround) ha.procs
  have hshift : 0 ≤ a.offset p * a.block :=
    Int.mul_nonneg (Axis.offset_nonneg ha p) (Int.le_of_lt ha.block)
  have hplace : 0 ≤ l.fmod a.block := Int.fmod_nonneg_of_pos l ha.block
  have hsplit : l.fmod a.block + a.block * l.fdiv a.block = l := Int.fmod_add_mul_fdiv l a.block
  rw [Int.mul_comm] at hsplit
  have hparts : a.index p l =
      l.fdiv a.block * a.block * a.procs + a.offset p * a.block + l.fmod a.block := rfl
  have hfits : forall {x}, 0 ≤ x -> x ≤ a.index p l -> Words.fits x = true :=
    fun hx hle => Words.fits_of_le hx hle hindex
  have hslotFits : Words.fits l = true := hfits hl (by omega)
  have hplaceFits : Words.fits (l.fmod a.block) = true := hfits hplace (by omega)
  have hquotFits : Words.fits (l.fdiv a.block) = true := hfits hquot (by omega)
  have hroundFits : Words.fits (l.fdiv a.block * a.block) = true :=
    hfits (Int.le_trans hquot hround) (by omega)
  have hstartFits : Words.fits (l.fdiv a.block * a.block * a.procs) = true :=
    hfits (by omega) (by omega)
  have hsumFits :
      Words.fits (l.fdiv a.block * a.block * a.procs + a.offset p * a.block) = true :=
    hfits (by omega) (by omega)
  unfold index
  rw [offset_numbers ha]
  unfold Axis.numbers
  simp only [bind, Except.bind, Extent.mul_single,
    Extent.quot_of_fits hslotFits hblockFits hblock hquotFits,
    Extent.mul_of_fits hquotFits hblockFits hroundFits,
    Extent.mul_of_fits hroundFits hprocsFits hstartFits,
    Extent.add_of_fits hstartFits hshiftFits hsumFits,
    Extent.rem_of_fits hslotFits hblockFits hblock]
  exact Extent.add_of_fits hsumFits hplaceFits hindex

theorem indicesOf_numbers {n p : Int} (hn : 0 ≤ n) (h : a.Tabulated n p) :
    a.numbers.indicesOf (.int (a.extent n p)) (.int p) =
      .ok ((a.indices n p).map Number.int) := by
  have hfirst : Words.fits (a.index p 0) = true := by
    have hwords := h.words
    unfold Axis.indicesFit at hwords
    rw [Bool.and_eq_true] at hwords
    have hzero : a.index p 0 = a.offset p * a.block := by
      unfold Axis.index
      rw [Int.zero_fdiv, Int.zero_fmod]
      omega
    rw [hzero]
    exact hwords.2
  have hentry : forall l : Nat, l ∈ List.range (a.extent n p).toNat ->
      a.numbers.index .table (.int p) (.int l) = .ok (.int (a.index p l)) := by
    intro l hl
    have hl : (l : Int) < a.extent n p := Int.lt_toNat.mp (List.mem_range.mp hl)
    have hnonneg := Axis.index_nonneg ha p (Int.natCast_nonneg l)
    have hlow : -Words.bound ≤ 0 := by decide
    have hhigh := Int.lt_of_lt_of_le ((Axis.lt_extent_iff ha n p l).mp hl) h.bound
    exact index_numbers ha h.words (Int.natCast_nonneg l)
      (Words.fits_iff.mpr ⟨Int.le_trans hlow hnonneg, hhigh⟩)
  have hslots : slots (.int (a.extent n p)) =
      .ok ((List.range (a.extent n p).toNat).map fun k : Nat => Number.int k) := by
    unfold slots
    simp only
    rw [countingLength_of_room (Axis.extent_nonneg ha hn p) h.room]
    rfl
  have hprobe := index_numbers ha h.words (Int.le_refl 0) hfirst
  unfold indicesOf
  rw [hslots]
  show table _ _ = _
  unfold table
  rw [hprobe]
  show List.mapM _ _ = _
  unfold Axis.indices
  rw [List.mapM_map, List.map_map]
  apply Except.mapM_eq_ok
  intro l hl
  rw [Function.comp_apply, Function.comp_apply]
  exact hentry l hl

end NumberAxis

/-!
# Regions of integers
-/

namespace Argument

def pair (x y : Int) : Argument :=
  .list [.whole x, .whole y]

theorem two_pair (x y : Int) : (pair x y).two = .ok (.whole x, .whole y) :=
  rfl

theorem itemAt_zero_pair (x y : Int) : (pair x y).itemAt 0 = .ok (.whole x) :=
  rfl

theorem itemAt_one_pair (x y : Int) : (pair x y).itemAt 1 = .ok (.whole y) :=
  rfl

theorem number_whole (x : Int) : (whole x).number = .ok (.int x) := by
  unfold number number? spelled
  rfl

end Argument

theorem NumberAxis.ofArguments_whole (a : Axis) :
    ofArguments (.whole a.block) (.whole a.procs) (.whole a.source) = .ok a.numbers := by
  unfold ofArguments
  simp only [Argument.number_whole]
  rfl

theorem RegionNumbers.ofArguments_pairs {d : Distribution} (hrow : d.rowAxis.Positive)
    (hcol : d.colAxis.Positive) (hrows : 0 ≤ d.rows) (hcols : 0 ≤ d.cols) {prow pcol : Int}
    (hrowTable : d.rowAxis.Tabulated d.rows prow) (hcolTable : d.colAxis.Tabulated d.cols pcol) :
    ofArguments (.pair d.rows d.cols) (.pair d.rowAxis.block d.colAxis.block)
      (.pair d.rowAxis.procs d.colAxis.procs) (.pair prow pcol)
      (.pair d.rowAxis.source d.colAxis.source) =
        .ok ⟨(d.rowAxis.indices d.rows prow).map Number.int,
          (d.colAxis.indices d.cols pcol).map Number.int⟩ := by
  unfold ofArguments
  simp only [bind, Except.bind, Argument.two_pair, Argument.itemAt_zero_pair,
    Argument.itemAt_one_pair, Argument.number_whole, NumberAxis.ofArguments_whole,
    NumberAxis.extent_numbers hrow, NumberAxis.extent_numbers hcol,
    NumberAxis.indicesOf_numbers hrow hrows hrowTable,
    NumberAxis.indicesOf_numbers hcol hcols hcolTable]
  rfl

end BlockCyclic
