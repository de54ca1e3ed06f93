import BlockCyclic.Proofs.Axis.Deal
import Mathlib.Data.Rat.Floor

/-!
# The deal is balanced

The local slots below the extent of a process are those whose indices are below `n`, so
extents are compared through the indices in the slots, and the cases of the closed formula
are not looked at again. A process nearer to the source has the lower index in every slot
and never holds less. Index `n` is the next one to be dealt: its slot is the first that its
owner does not fill yet, and no other process has a slot for it.
-/

namespace BlockCyclic
namespace Axis

section

variable {a : Axis} (ha : a.Positive)

include ha

/-!
# Extents side by side
-/

theorem index_le_of_offset_le {p r : Int} (h : a.offset p ≤ a.offset r) (l : Int) :
    a.index p l ≤ a.index r l := by
  have hblocks : (l / a.block * a.procs + a.offset p) * a.block ≤
      (l / a.block * a.procs + a.offset r) * a.block :=
    Int.mul_le_mul_of_nonneg_right (Int.add_le_add_left h _) (Int.le_of_lt ha.block)
  rw [index_eq ha, index_eq ha]
  exact Int.add_le_add_right hblocks _

theorem extent_antitone {p r : Int} (h : a.offset p ≤ a.offset r) (n : Int) :
    a.extent n r ≤ a.extent n p := by
  apply le_of_forall_lt
  intro l hl
  have hbelow : a.index r l < n := (lt_extent_iff ha n r l).mp hl
  exact (lt_extent_iff ha n p l).mpr (Int.lt_of_le_of_lt (index_le_of_offset_le ha h l) hbelow)

/-- The full rounds are common to all processes, and the last round gives at most a block. -/
theorem abs_extent_sub_extent_le (n p r : Int) :
    |a.extent n p - a.extent n r| ≤ a.block := by
  have hp := lastRound_nonneg ha n p
  have hp' := lastRound_le ha n p
  have hr := lastRound_nonneg ha n r
  have hr' := lastRound_le ha n r
  rw [extent_eq ha, extent_eq ha, Int.add_sub_add_left, abs_le]
  omega

/-!
# Processes with a share
-/

theorem index_zero (p : Int) : a.index p 0 = a.offset p * a.block := by
  rw [index_eq ha, Int.zero_ediv, Int.zero_emod, Int.zero_mul, Int.zero_add, Int.add_zero]

/-- A process has a share as soon as its block of the first round is begun. -/
theorem extent_pos_iff (n p : Int) :
    0 < a.extent n p <-> a.offset p < ⌈(n : Rat) / a.block⌉ := by
  have hblock : (0 : Rat) < a.block := Int.cast_pos.mpr ha.block
  rw [lt_extent_iff ha, index_zero ha, Int.lt_ceil, lt_div_iff₀ hblock]
  norm_cast

theorem exists_owned_iff (n : Int) {p : Int} (hp : 0 ≤ p) (hlt : p < a.procs) :
    (exists g, 0 ≤ g ∧ g < n ∧ a.owner g = p) <-> 0 < a.extent n p := by
  constructor
  · rintro ⟨g, hg, hbelow, rfl⟩
    exact Int.lt_of_le_of_lt (slot_nonneg ha hg) (slot_lt_extent ha hbelow)
  · intro h
    exact ⟨a.index p 0, index_nonneg ha p (Int.le_refl 0), (lt_extent_iff ha n p 0).mp h,
      owner_index ha hp hlt 0⟩

/-!
# One index more
-/

theorem index_lt_iff (p l k : Int) : a.index p l < a.index p k <-> l < k :=
  StrictMono.lt_iff_lt fun _ _ h => index_strictMono ha p h

theorem index_le_iff (p l k : Int) : a.index p l ≤ a.index p k <-> l ≤ k := by
  rw [← Int.not_lt, index_lt_iff ha, Int.not_lt]

/-- The owner of the next index holds the slots before the one that the index goes to. -/
theorem extent_owner (n : Int) : a.extent n (a.owner n) = a.slot n := by
  apply eq_of_forall_lt_iff
  intro l
  calc
    l < a.extent n (a.owner n)
        <-> a.index (a.owner n) l < a.index (a.owner n) (a.slot n) := by
      rw [lt_extent_iff ha, index_owner_slot ha]
    _ <-> l < a.slot n := index_lt_iff ha _ l _

theorem extent_succ_owner (n : Int) :
    a.extent (n + 1) (a.owner n) = a.extent n (a.owner n) + 1 := by
  apply eq_of_forall_lt_iff
  intro l
  calc
    l < a.extent (n + 1) (a.owner n)
        <-> a.index (a.owner n) l ≤ a.index (a.owner n) (a.slot n) := by
      rw [lt_extent_iff ha, index_owner_slot ha, Int.lt_add_one_iff]
    _ <-> l ≤ a.slot n := index_le_iff ha _ l _
    _ <-> l < a.extent n (a.owner n) + 1 := by
      rw [extent_owner ha, Int.lt_add_one_iff]

theorem extent_succ_of_ne (n : Int) {p : Int} (hp : 0 ≤ p) (hlt : p < a.procs)
    (h : p ≠ a.owner n) :
    a.extent (n + 1) p = a.extent n p := by
  apply eq_of_forall_lt_iff
  intro l
  have hother : a.index p l ≠ n := by
    rintro rfl
    exact h (owner_index ha hp hlt l).symm
  rw [lt_extent_iff ha, lt_extent_iff ha]
  omega

theorem extent_succ_sub_extent (n : Int) {p : Int} (hp : 0 ≤ p) (hlt : p < a.procs) :
    a.extent (n + 1) p - a.extent n p = if p = a.owner n then 1 else 0 := by
  split
  case isTrue h =>
    subst h
    rw [extent_succ_owner ha]
    omega
  case isFalse h =>
    rw [extent_succ_of_ne ha n hp hlt h, Int.sub_self]

end

/--
Extents fall with the distance from the source, and by no more than a block. The processes
with a share are those whose distance is below the number of blocks, and one more index
extends its owner alone. Neither the source nor `n` is bounded.
-/
theorem extents_are_balanced {a : Axis} (ha : a.Positive) (n : Int) :
    (forall p r, (p - a.source) % a.procs ≤ (r - a.source) % a.procs ->
      a.extent n r ≤ a.extent n p) ∧
    (forall p r, |a.extent n p - a.extent n r| ≤ a.block) ∧
    (forall p, 0 ≤ p -> p < a.procs ->
      (1 ≤ a.extent n p <-> (p - a.source) % a.procs < ⌈(n : Rat) / a.block⌉) ∧
      ((exists g, 0 ≤ g ∧ g < n ∧ a.owner g = p) <->
        (p - a.source) % a.procs < ⌈(n : Rat) / a.block⌉)) ∧
    (forall p, 0 ≤ p -> p < a.procs ->
      a.extent (n + 1) p - a.extent n p = if p = a.owner n then 1 else 0) := by
  have hshare : forall p, 1 ≤ a.extent n p <->
      (p - a.source) % a.procs < ⌈(n : Rat) / a.block⌉ := by
    intro p
    rw [← offset_eq ha]
    exact extent_pos_iff ha n p
  refine ⟨?_, abs_extent_sub_extent_le ha n, ?_, ?_⟩
  · intro p r h
    rw [← offset_eq ha, ← offset_eq ha] at h
    exact extent_antitone ha h n
  · intro p hp hlt
    exact ⟨hshare p, (exists_owned_iff ha n hp hlt).trans (hshare p)⟩
  · intro p hp hlt
    exact extent_succ_sub_extent ha n hp hlt

/--
Seven indices in blocks of two to three processes, from a source before the first: the last
block is the source's second one, half full, and the eighth index completes it.
-/
theorem extents_are_balanced_second_round :
    (⟨2, 3, -1⟩ : Axis).Positive ∧
    (⟨2, 3, -1⟩ : Axis).extent 7 1 ≤ (⟨2, 3, -1⟩ : Axis).extent 7 2 ∧
    |(⟨2, 3, -1⟩ : Axis).extent 7 2 - (⟨2, 3, -1⟩ : Axis).extent 7 0| ≤ 2 ∧
    1 ≤ (⟨2, 3, -1⟩ : Axis).extent 7 1 ∧
    (⟨2, 3, -1⟩ : Axis).extent 8 2 - (⟨2, 3, -1⟩ : Axis).extent 7 2 = 1 := by
  have ha : (⟨2, 3, -1⟩ : Axis).Positive := ⟨by decide, by decide⟩
  have hblocks : (1 - -1) % 3 < ⌈((7 : Int) : Rat) / (2 : Int)⌉ := by
    rw [Int.lt_ceil]
    norm_num
  rcases extents_are_balanced ha 7 with ⟨hfalls, hnear, hshare, hgrows⟩
  exact ⟨ha, hfalls 2 1 (by decide), hnear 2 0,
    (hshare 1 (by decide) (by decide)).1.mpr hblocks, hgrows 2 (by decide) (by decide)⟩

end Axis
end BlockCyclic
