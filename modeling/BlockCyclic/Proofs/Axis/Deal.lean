import BlockCyclic.Distribution

/-!
# The deal is a bijection

An index is told apart by its block and its place in the block; the block is told
apart by its round and by the distance of its owner from the source. The four
formulas of an axis are read in these terms, and then the indices below `n` and the
pairs of a process and a local slot below its extent are in one-to-one
correspondence. Nothing is asked of the source.
-/

namespace BlockCyclic
namespace Axis

/-- Blocks are not empty, and there is a process to receive them. -/
structure Positive (a : Axis) : Prop where
  block : 0 < a.block
  procs : 0 < a.procs

section

variable {a : Axis} (ha : a.Positive)

include ha

/-!
# The formulas by quotient and remainder
-/

theorem offset_eq (p : Int) :
    a.offset p = (p - a.source) % a.procs := by
  unfold offset
  rw [Int.fmod_eq_emod_of_nonneg _ (Int.le_of_lt ha.procs)]
  rw [show a.procs + p - a.source = (p - a.source) + a.procs by omega]
  exact Int.add_emod_right (p - a.source) a.procs

theorem offset_nonneg (p : Int) : 0 ≤ a.offset p := by
  rw [offset_eq ha]
  exact Int.emod_nonneg _ (Int.ne_of_gt ha.procs)

theorem offset_lt (p : Int) : a.offset p < a.procs := by
  rw [offset_eq ha]
  exact Int.emod_lt_of_pos _ ha.procs

theorem owner_eq (g : Int) :
    a.owner g = (a.source + g / a.block) % a.procs := by
  unfold owner
  rw [Int.fmod_eq_emod_of_nonneg _ (Int.le_of_lt ha.procs),
    Int.fdiv_eq_ediv_of_nonneg _ (Int.le_of_lt ha.block)]

theorem owner_nonneg (g : Int) : 0 ≤ a.owner g := by
  rw [owner_eq ha]
  exact Int.emod_nonneg _ (Int.ne_of_gt ha.procs)

theorem owner_lt (g : Int) : a.owner g < a.procs := by
  rw [owner_eq ha]
  exact Int.emod_lt_of_pos _ ha.procs

/-- The round in which the block of an index is dealt, and the place in the block. -/
theorem slot_eq (g : Int) :
    a.slot g = g / a.block / a.procs * a.block + g % a.block := by
  unfold slot
  rw [Int.fdiv_eq_ediv_of_nonneg _
      (Int.mul_nonneg (Int.le_of_lt ha.block) (Int.le_of_lt ha.procs)),
    Int.fmod_eq_emod_of_nonneg _ (Int.le_of_lt ha.block),
    Int.ediv_ediv_of_nonneg (Int.le_of_lt ha.block)]

/-- The number of a local block among all blocks, and the place in the block. -/
theorem index_eq (p l : Int) :
    a.index p l =
      (l / a.block * a.procs + a.offset p) * a.block + l % a.block := by
  unfold index
  rw [Int.fdiv_eq_ediv_of_nonneg _ (Int.le_of_lt ha.block),
    Int.fmod_eq_emod_of_nonneg _ (Int.le_of_lt ha.block)]
  rw [Int.add_mul, Int.mul_right_comm]

theorem index_ediv_block (p l : Int) :
    a.index p l / a.block = l / a.block * a.procs + a.offset p := by
  have hplace := Int.emod_nonneg l (Int.ne_of_gt ha.block)
  have hsmall := Int.emod_lt_of_pos l ha.block
  rw [index_eq ha, Int.add_comm, Int.add_mul_ediv_right _ _ (Int.ne_of_gt ha.block),
    Int.ediv_eq_zero_of_lt hplace hsmall, Int.zero_add]

theorem index_emod_block (p l : Int) :
    a.index p l % a.block = l % a.block := by
  rw [index_eq ha, Int.add_comm, Int.add_mul_emod_self_right]
  exact Int.emod_emod_of_dvd l (Int.dvd_refl a.block)

theorem index_round (p l : Int) :
    a.index p l / a.block / a.procs = l / a.block := by
  rw [index_ediv_block ha, Int.add_comm,
    Int.add_mul_ediv_right _ _ (Int.ne_of_gt ha.procs),
    Int.ediv_eq_zero_of_lt (offset_nonneg ha p) (offset_lt ha p), Int.zero_add]

theorem index_distance (p l : Int) :
    a.index p l / a.block % a.procs = a.offset p := by
  rw [index_ediv_block ha, Int.add_comm, Int.add_mul_emod_self_right]
  exact Int.emod_eq_of_lt (offset_nonneg ha p) (offset_lt ha p)

/-- The distance of an owner from the source is the place of the block in its round. -/
theorem offset_owner (g : Int) :
    a.offset (a.owner g) = g / a.block % a.procs := by
  rw [offset_eq ha, owner_eq ha, Int.sub_eq_add_neg, Int.emod_add_emod]
  congr 1
  omega

theorem owner_of_distance {p : Int} (hp : 0 ≤ p) (hlt : p < a.procs) {g : Int}
    (h : g / a.block % a.procs = a.offset p) :
    a.owner g = p := by
  rw [owner_eq ha, ← Int.add_emod_emod, h, offset_eq ha, Int.add_emod_emod,
    show a.source + (p - a.source) = p by omega]
  exact Int.emod_eq_of_lt hp hlt

/-!
# Both ways around
-/

theorem index_owner_slot (g : Int) :
    a.index (a.owner g) (a.slot g) = g := by
  have hplace := Int.emod_nonneg g (Int.ne_of_gt ha.block)
  have hsmall := Int.emod_lt_of_pos g ha.block
  have hround : a.slot g / a.block = g / a.block / a.procs := by
    rw [slot_eq ha, Int.add_comm, Int.add_mul_ediv_right _ _ (Int.ne_of_gt ha.block),
      Int.ediv_eq_zero_of_lt hplace hsmall, Int.zero_add]
  have hrest : a.slot g % a.block = g % a.block := by
    rw [slot_eq ha, Int.add_comm, Int.add_mul_emod_self_right]
    exact Int.emod_emod_of_dvd g (Int.dvd_refl a.block)
  rw [index_eq ha, hround, hrest, offset_owner ha, Int.ediv_mul_add_emod,
    Int.ediv_mul_add_emod]

theorem owner_index {p : Int} (hp : 0 ≤ p) (hlt : p < a.procs) (l : Int) :
    a.owner (a.index p l) = p :=
  owner_of_distance ha hp hlt (index_distance ha p l)

theorem slot_index (p l : Int) :
    a.slot (a.index p l) = l := by
  rw [slot_eq ha, index_round ha, index_emod_block ha]
  exact Int.ediv_mul_add_emod l a.block

theorem index_nonneg (p : Int) {l : Int} (hl : 0 ≤ l) : 0 ≤ a.index p l := by
  have hblocks : 0 ≤ l / a.block * a.procs + a.offset p :=
    Int.add_nonneg
      (Int.mul_nonneg (Int.ediv_nonneg hl (Int.le_of_lt ha.block))
        (Int.le_of_lt ha.procs))
      (offset_nonneg ha p)
  rw [index_eq ha]
  exact Int.add_nonneg (Int.mul_nonneg hblocks (Int.le_of_lt ha.block))
    (Int.emod_nonneg l (Int.ne_of_gt ha.block))

theorem slot_nonneg {g : Int} (hg : 0 ≤ g) : 0 ≤ a.slot g := by
  have hround : 0 ≤ g / a.block / a.procs :=
    Int.ediv_nonneg (Int.ediv_nonneg hg (Int.le_of_lt ha.block))
      (Int.le_of_lt ha.procs)
  rw [slot_eq ha]
  exact Int.add_nonneg (Int.mul_nonneg hround (Int.le_of_lt ha.block))
    (Int.emod_nonneg g (Int.ne_of_gt ha.block))

/-!
# Extents

A number is below `q * block + rest` when its block comes before block `q`, or is that
block and its place comes before `rest`. The extent of a process is such a bound on its
local slots, and `n` is such a bound on the indices.
-/

omit ha in
theorem lt_blocks_iff {b : Int} (hb : 0 < b) (x q rest : Int)
    (hrest : 0 ≤ rest) (hfull : rest ≤ b) :
    x < q * b + rest <-> x / b < q ∨ (x / b = q ∧ x % b < rest) := by
  have hx := Int.ediv_mul_add_emod x b
  have hplace := Int.emod_nonneg x (Int.ne_of_gt hb)
  have hsmall := Int.emod_lt_of_pos x hb
  rcases Int.lt_trichotomy (x / b) q with hlt | heq | hgt
  · have hstep : (x / b + 1) * b ≤ q * b :=
      Int.mul_le_mul_of_nonneg_right hlt (Int.le_of_lt hb)
    rw [Int.add_mul, Int.one_mul] at hstep
    constructor
    · intro _
      exact Or.inl hlt
    · intro _
      omega
  · subst heq
    constructor
    · intro h
      exact Or.inr ⟨rfl, by omega⟩
    · intro h
      omega
  · have hstep : (q + 1) * b ≤ x / b * b :=
      Int.mul_le_mul_of_nonneg_right hgt (Int.le_of_lt hb)
    rw [Int.add_mul, Int.one_mul] at hstep
    constructor
    · intro h
      omega
    · intro h
      omega

/-- What a process holds of the last round: a full block, the partial block, or nothing. -/
def lastRound (a : Axis) (n p : Int) : Int :=
  if a.offset p < n / a.block % a.procs then a.block
  else if a.offset p = n / a.block % a.procs then n % a.block
  else 0

theorem extent_eq (n p : Int) :
    a.extent n p = n / a.block / a.procs * a.block + a.lastRound n p := by
  simp only [extent, lastRound, Int.fdiv_eq_ediv_of_nonneg _ (Int.le_of_lt ha.block),
    Int.fdiv_eq_ediv_of_nonneg _ (Int.le_of_lt ha.procs),
    Int.fmod_eq_emod_of_nonneg _ (Int.le_of_lt ha.block),
    Int.fmod_eq_emod_of_nonneg _ (Int.le_of_lt ha.procs)]
  split
  · rfl
  · split
    · rfl
    · exact (Int.add_zero _).symm

theorem lastRound_nonneg (n p : Int) : 0 ≤ a.lastRound n p := by
  have hpartial := Int.emod_nonneg n (Int.ne_of_gt ha.block)
  have hblock := ha.block
  unfold lastRound
  split
  · omega
  · split <;> omega

theorem lastRound_le (n p : Int) : a.lastRound n p ≤ a.block := by
  have hpartial := Int.emod_lt_of_pos n ha.block
  have hblock := ha.block
  unfold lastRound
  split
  · omega
  · split <;> omega

theorem extent_nonneg {n : Int} (hn : 0 ≤ n) (p : Int) : 0 ≤ a.extent n p := by
  have hshare : 0 ≤ n / a.block / a.procs * a.block :=
    Int.mul_nonneg
      (Int.ediv_nonneg (Int.ediv_nonneg hn (Int.le_of_lt ha.block))
        (Int.le_of_lt ha.procs))
      (Int.le_of_lt ha.block)
  rw [extent_eq ha]
  exact Int.add_nonneg hshare (lastRound_nonneg ha n p)

/-- The local slots below the extent are those whose indices are below `n`. -/
theorem lt_extent_iff (n p l : Int) :
    l < a.extent n p <-> a.index p l < n := by
  have hplace := Int.emod_nonneg n (Int.ne_of_gt ha.block)
  have hsmall := Int.emod_lt_of_pos n ha.block
  have hdist := Int.emod_nonneg (n / a.block) (Int.ne_of_gt ha.procs)
  have hround := Int.emod_lt_of_pos (n / a.block) ha.procs
  have hslot :=
    lt_blocks_iff ha.block l (n / a.block / a.procs) _
      (lastRound_nonneg ha n p) (lastRound_le ha n p)
  have hindex :=
    lt_blocks_iff ha.block (a.index p l) (n / a.block) _ hplace (Int.le_of_lt hsmall)
  have hblocks :=
    lt_blocks_iff ha.procs (a.index p l / a.block) (n / a.block / a.procs) _
      hdist (Int.le_of_lt hround)
  rw [Int.ediv_mul_add_emod, index_emod_block ha] at hindex
  rw [Int.ediv_mul_add_emod, index_round ha, index_distance ha] at hblocks
  have hsame : a.index p l / a.block = n / a.block <->
      l / a.block = n / a.block / a.procs ∧
        a.offset p = n / a.block % a.procs := by
    constructor
    · intro h
      exact ⟨by rw [← h, index_round ha], by rw [← h, index_distance ha]⟩
    · intro h
      rw [index_ediv_block ha, h.1, h.2, Int.ediv_mul_add_emod]
  have hlast := Int.emod_lt_of_pos l ha.block
  have hfirst := Int.emod_nonneg l (Int.ne_of_gt ha.block)
  rw [extent_eq ha, hslot, hindex, hblocks, hsame]
  unfold lastRound
  split
  · omega
  · split <;> omega

theorem le_index (p : Int) {l : Int} (hl : 0 ≤ l) : l ≤ a.index p l := by
  have hblocks : l / a.block ≤ l / a.block * a.procs + a.offset p := by
    have hround := Int.ediv_nonneg hl (Int.le_of_lt ha.block)
    have hlonger := Int.mul_le_mul_of_nonneg_left (show 1 ≤ a.procs from ha.procs) hround
    have hdist := offset_nonneg ha p
    rw [Int.mul_one] at hlonger
    omega
  have hwhole := Int.mul_le_mul_of_nonneg_right hblocks (Int.le_of_lt ha.block)
  have hsplit := Int.ediv_mul_add_emod l a.block
  rw [index_eq ha]
  omega

theorem extent_le {n : Int} (hn : 0 ≤ n) (p : Int) : a.extent n p ≤ n := by
  apply Int.not_lt.mp
  intro h
  have hindex := (lt_extent_iff ha n p n).mp h
  exact absurd (le_index ha p hn) (Int.not_le.mpr hindex)

theorem slot_lt_extent {n g : Int} (hg : g < n) :
    a.slot g < a.extent n (a.owner g) := by
  rw [lt_extent_iff ha, index_owner_slot ha]
  exact hg

theorem eq_slot_iff {p g : Int} (hg : 0 ≤ g) (howner : p = a.owner g) (l : Nat) :
    l = (a.slot g).toNat <-> (a.index p l).toNat = g.toNat := by
  have hslot := slot_nonneg ha hg
  have hindex := index_nonneg ha p (Int.natCast_nonneg l)
  have hiff : a.index p l = g <-> (l : Int) = a.slot g := by
    constructor
    · intro h
      rw [← h, slot_index ha]
    · intro h
      rw [h, howner]
      exact index_owner_slot ha g
  omega

theorem index_strictMono (p : Int) {l k : Int} (h : l < k) :
    a.index p l < a.index p k := by
  have hk := Int.emod_nonneg k (Int.ne_of_gt ha.block)
  have hbound :=
    (lt_blocks_iff ha.block l (k / a.block) _ hk
      (Int.le_of_lt (Int.emod_lt_of_pos k ha.block))).mp
      (by rw [Int.ediv_mul_add_emod]; exact h)
  have hindex :=
    lt_blocks_iff ha.block (a.index p l) (a.index p k / a.block)
      (a.index p k % a.block)
      (by rw [index_emod_block ha]; exact hk)
      (Int.le_of_lt (Int.emod_lt_of_pos _ ha.block))
  rw [Int.ediv_mul_add_emod] at hindex
  rw [hindex, index_ediv_block ha, index_ediv_block ha, index_emod_block ha,
    index_emod_block ha]
  rcases hbound with hround | ⟨hround, hplace⟩
  · apply Or.inl
    have hstep : l / a.block * a.procs < k / a.block * a.procs :=
      Int.mul_lt_mul_of_pos_right hround ha.procs
    omega
  · exact Or.inr ⟨by rw [hround], hplace⟩

end

end Axis
end BlockCyclic
