import BlockCyclic.Proofs.Grid.Factorization
import BlockCyclic.Proofs.Number.Rounding
import Mathlib.SetTheory.Cardinal.Finite

/-!
# Counting blocks

The blocks of an axis are counted by rounding a quotient up after it was rounded to a double.
Rounding to the nearest double cannot take the quotient past an integer that is a double
itself. It cannot take it down to one either: a quotient above an integer lies above it by at
least one part in the size of a block, and within twice that distance there is a double that
is closer.
-/

namespace BlockCyclic

/-- The number of blocks into which an extent is cut, the last of which may be shorter. -/
abbrev exactBlockCount (extent block : Nat) : Nat :=
  ⌈(extent : Rat) / block⌉₊

/-- A block has entries as long as those before it do not cover the extent. -/
theorem lt_exactBlockCount {extent block i : Nat} (hblock : 1 ≤ block) :
    i < exactBlockCount extent block ↔ i * block < extent := by
  have hpos : (0 : Rat) < block := Nat.cast_pos.mpr hblock
  unfold exactBlockCount
  rw [Nat.lt_ceil, lt_div_iff₀ hpos]
  exact_mod_cast Iff.rfl

theorem exactBlockCount_le {extent block : Nat} (hblock : 1 ≤ block) :
    exactBlockCount extent block ≤ extent := by
  have hpos : (0 : Rat) < block := Nat.cast_pos.mpr hblock
  rw [Nat.ceil_le, div_le_iff₀ hpos]
  exact_mod_cast Nat.le_mul_of_pos_right extent hblock

theorem card_nonempty_blocks {m k mb nb : Nat} (hmb : 1 ≤ mb) (hnb : 1 ≤ nb) :
    Nat.card { b : Nat × Nat // b.1 * mb < m ∧ b.2 * nb < k } =
      exactBlockCount m mb * exactBlockCount k nb := by
  have hmem : forall b : Nat × Nat, b ∈ Finset.range (exactBlockCount m mb) ×ˢ
      Finset.range (exactBlockCount k nb) ↔ b.1 * mb < m ∧ b.2 * nb < k := by
    intro b
    rw [Finset.mem_product, Finset.mem_range, Finset.mem_range, lt_exactBlockCount hmb,
      lt_exactBlockCount hnb]
  rw [Nat.subtype_card _ hmem, Finset.card_product, Finset.card_range, Finset.card_range]

/-!
# Quotients of integers that a format holds
-/

/-- A scale on which the successor of an integer still fits, and which tells blocks apart. -/
theorem exists_scale {a b digits : Nat} (hb : 1 ≤ b) (hfits : b ≤ 2 ^ digits)
    (hproduct : a * b < 2 ^ digits) :
    exists t, t ≤ digits ∧ a * 2 ^ t + 1 ≤ 2 ^ digits ∧ b < 2 ^ (t + 1) := by
  rcases Nat.eq_zero_or_pos a with rfl | ha
  · refine ⟨digits, Nat.le_refl _, ?_, ?_⟩
    · rw [Nat.zero_mul, Nat.zero_add]
      exact Nat.pow_pos Nat.two_pos
    · exact lt_of_le_of_lt hfits (Nat.pow_lt_pow_right (by decide) (by omega))
  · have hlow : 2 ^ Nat.log2 a ≤ a := Nat.log2_self_le (Nat.ne_of_gt ha)
    have hup : a < 2 ^ (Nat.log2 a + 1) := Nat.lt_log2_self
    have hlog : Nat.log2 a < digits := by
      apply (Nat.pow_lt_pow_iff_right (by decide : 1 < 2)).mp
      calc 2 ^ Nat.log2 a ≤ a := hlow
        _ ≤ a * b := Nat.le_mul_of_pos_right a hb
        _ < 2 ^ digits := hproduct
    refine ⟨digits - 1 - Nat.log2 a, by omega, ?_, ?_⟩
    · calc a * 2 ^ (digits - 1 - Nat.log2 a) + 1
          ≤ 2 ^ (Nat.log2 a + 1) * 2 ^ (digits - 1 - Nat.log2 a) :=
            Nat.mul_lt_mul_of_pos_right hup (Nat.pow_pos Nat.two_pos)
        _ = 2 ^ digits := by rw [← Nat.pow_add]; congr 1; omega
    · apply Nat.lt_of_mul_lt_mul_left (a := 2 ^ Nat.log2 a)
      calc 2 ^ Nat.log2 a * b ≤ a * b := Nat.mul_le_mul_right b hlow
        _ < 2 ^ digits := hproduct
        _ = 2 ^ Nat.log2 a * 2 ^ (digits - 1 - Nat.log2 a + 1) := by
            rw [← Nat.pow_add]; congr 1; omega

section

variable {f : BinaryFormat} (hdigits : 1 ≤ f.digits) (hmin : f.minExponent ≤ -f.digits)
  {m b : Nat} (hm : 1 ≤ m ∧ m ≤ 2 ^ f.digits) (hb : 1 ≤ b ∧ b ≤ 2 ^ f.digits)

include hdigits hmin hm hb

theorem exists_nearer {a : Nat} (ha : a * b < m) :
    exists v, f.Holds v ∧ |v - (m : Rat) / b| < (m : Rat) / b - a := by
  rcases exists_scale hb.1 hb.2 (ha.trans_le hm.2) with ⟨t, ht, hfits, htells⟩
  have hpos : (0 : Rat) < b := Nat.cast_pos.mpr hb.1
  have hscale : (0 : Rat) < 2 ^ t := by positivity
  have habove : 1 / (b : Rat) ≤ m / b - a := by
    have hcast : (a : Rat) * b + 1 ≤ m := by exact_mod_cast ha
    rw [le_sub_iff_add_le, div_add' _ _ _ hpos.ne', div_le_div_iff_of_pos_right hpos]
    linarith
  have hstep : 1 / (2 : Rat) ^ t < 2 * (1 / b) := by
    have hcast : (b : Rat) < 2 ^ t * 2 := by exact_mod_cast htells
    rw [mul_one_div, div_lt_div_iff₀ hscale hpos]
    linarith
  have hpositive : 0 < 1 / (2 : Rat) ^ t := by positivity
  have hvalue : ((a * 2 ^ t + 1 : Nat) : Rat) * 2 ^ (-(t : Int)) = a + 1 / 2 ^ t := by
    rw [zpow_neg, zpow_natCast, ← div_eq_mul_inv, Nat.cast_add, Nat.cast_mul, Nat.cast_pow,
      Nat.cast_ofNat, Nat.cast_one, add_div, mul_div_cancel_right₀ _ hscale.ne']
  refine ⟨_, BinaryFormat.holds_of_le hdigits hfits (e := -(t : Int)) (by omega), ?_⟩
  rw [hvalue, abs_lt]
  constructor <;> linarith

/-- Rounding to the nearest value does not change what a quotient is rounded up to. -/
theorem ceil_of_nearest {d : Dyad} (h : f.Nearest ((m : Rat) / b) d) :
    ⌈d.value⌉₊ = exactBlockCount m b := by
  have hpos : (0 : Rat) < b := Nat.cast_pos.mpr hb.1
  have hcount : 1 ≤ exactBlockCount m b := (lt_exactBlockCount hb.1).mpr (by omega)
  rw [Nat.ceil_eq_iff (by omega)]
  constructor
  · have hbelow : (exactBlockCount m b - 1) * b < m := (lt_exactBlockCount hb.1).mp (by omega)
    rcases exists_nearer hdigits hmin hm hb hbelow with ⟨v, hv, hnearer⟩
    have hclosest := h.closest v hv
    have hdistance := neg_abs_le (d.value - (m : Rat) / b)
    linarith
  · have hheld : f.Holds (exactBlockCount m b) := by
      have hunit := BinaryFormat.holds_of_le hdigits ((exactBlockCount_le hb.1).trans hm.2)
        (e := 0) (by omega)
      rwa [zpow_zero, mul_one] at hunit
    have hle : (m : Rat) / b ≤ exactBlockCount m b := Nat.le_ceil _
    have hclosest := h.closest _ hheld
    rw [abs_of_nonneg (sub_nonneg.mpr hle)] at hclosest
    have hdistance := le_abs_self (d.value - (m : Rat) / b)
    linarith

/-- No quotient is too large for the format, and none is rounded to zero. -/
theorem exists_round?_of_held (hmax : (f.digits : Int) < f.maxExponent) :
    exists d, f.round? m b = some d ∧ f.Nearest ((m : Rat) / b) d ∧
      d.ceil = exactBlockCount m b ∧ d.mantissa ≠ 0 := by
  rcases f.exists_round? hdigits m hb.1 with ⟨d, hnearest, hround⟩
  have hceil := ceil_of_nearest hdigits hmin hm hb hnearest
  have hfinite : ¬ f.overflows d = true := by
    have hle : d.value ≤ (2 : Rat) ^ (f.digits : Int) := by
      rw [zpow_natCast]
      calc d.value ≤ ⌈d.value⌉₊ := Nat.le_ceil _
        _ ≤ ((2 ^ f.digits : Nat) : Rat) := by
            rw [hceil]
            exact Nat.cast_le.mpr ((exactBlockCount_le hb.1).trans hm.2)
        _ = 2 ^ f.digits := by rw [Nat.cast_pow, Nat.cast_ofNat]
    rw [BinaryFormat.overflows_iff, not_le]
    exact hle.trans_lt (zpow_lt_zpow_right₀ (by norm_num) hmax)
  rw [if_neg hfinite] at hround
  refine ⟨d, hround, hnearest, d.ceil_eq.trans hceil, fun hzero => ?_⟩
  have hcount : 1 ≤ exactBlockCount m b := (lt_exactBlockCount hb.1).mpr (by omega)
  rw [← hceil, Nat.one_le_ceil_iff] at hcount
  unfold Dyad.value at hcount
  rw [hzero, Nat.cast_zero, zero_mul] at hcount
  exact absurd hcount (lt_irrefl 0)

end

/-!
# Counts and ratios in doubles
-/

theorem exists_roundedQuotient? {m b : Nat} (hm : 1 ≤ m ∧ m ≤ 2 ^ 53)
    (hb : 1 ≤ b ∧ b ≤ 2 ^ 53) :
    exists d, roundedQuotient? m b = some d ∧ BinaryFormat.double.Nearest ((m : Rat) / b) d ∧
      d.ceil = exactBlockCount m b ∧ d.mantissa ≠ 0 :=
  exists_round?_of_held (f := .double) (by decide) (by decide) hm hb (by decide)

theorem blockCount?_eq {m b : Nat} (hm : 1 ≤ m ∧ m ≤ 2 ^ 53) (hb : 1 ≤ b ∧ b ≤ 2 ^ 53) :
    blockCount? m b = some (exactBlockCount m b) := by
  rcases exists_roundedQuotient? hm hb with ⟨d, hround, _, hceil, _⟩
  unfold blockCount?
  rw [hround, ← hceil]
  rfl

/-- One row more than doubles tell apart, and a block of the exact count is lost. -/
example : blockCount? (2 ^ 53 + 1) 1 = some (2 ^ 53) := by decide +kernel

theorem exists_targetRatio {m k : Nat} (hm : 1 ≤ m ∧ m ≤ 2 ^ 53) (hk : 1 ≤ k ∧ k ≤ 2 ^ 53) :
    exists r, targetRatio (m, k) = .ok r := by
  rcases exists_roundedQuotient? hm hk with ⟨d, hround, _, _, hmantissa⟩
  unfold targetRatio
  rw [hround]
  exact ⟨_, if_neg hmantissa⟩

/--
For sizes that doubles hold, the quotients from which blocks are counted are the nearest
doubles, and rounded up they are the exact counts: those of the blocks that have entries. A
grid is then always found, and it has one process for each block as far as processes last.
-/
theorem grid_counts_blocks {m k mb nb procs : Nat} (hm : 1 ≤ m ∧ m ≤ 2 ^ 53)
    (hk : 1 ≤ k ∧ k ≤ 2 ^ 53) (hmb : 1 ≤ mb ∧ mb ≤ 2 ^ 53) (hnb : 1 ≤ nb ∧ nb ≤ 2 ^ 53)
    (hprocs : 1 ≤ procs) :
    (exists down across, roundedQuotient? m mb = some down ∧
      roundedQuotient? k nb = some across ∧
      BinaryFormat.double.Nearest ((m : Rat) / mb) down ∧
      BinaryFormat.double.Nearest ((k : Rat) / nb) across ∧
      down.ceil = ⌈(m : Rat) / mb⌉₊ ∧ across.ceil = ⌈(k : Rat) / nb⌉₊) ∧
    (Nat.card { b : Nat × Nat // b.1 * mb < m ∧ b.2 * nb < k } =
      ⌈(m : Rat) / mb⌉₊ * ⌈(k : Rat) / nb⌉₊) ∧
    (exists p q, gridShapeOf (.pair m k) (.pair mb nb) (.whole procs) = .ok (p, q) ∧
      p * q = min (⌈(m : Rat) / mb⌉₊ * ⌈(k : Rat) / nb⌉₊) procs) := by
  refine ⟨?_, card_nonempty_blocks hmb.1 hnb.1, ?_⟩
  · rcases exists_roundedQuotient? hm hmb with ⟨down, hdown, hnear, hceil, _⟩
    rcases exists_roundedQuotient? hk hnb with ⟨across, hacross, hnear', hceil', _⟩
    exact ⟨down, across, hdown, hacross, hnear, hnear', hceil, hceil'⟩
  · have htotal : blockTotal? (m, k) (mb, nb) =
        some (exactBlockCount m mb * exactBlockCount k nb) := by
      unfold blockTotal?
      rw [blockCount?_eq hm hmb, blockCount?_eq hk hnb]
      rfl
    have hpos : 1 ≤ exactBlockCount m mb * exactBlockCount k nb :=
      Nat.mul_pos ((lt_exactBlockCount hmb.1).mpr (by omega))
        ((lt_exactBlockCount hnb.1).mpr (by omega))
    rcases exists_targetRatio hm hk with ⟨r, hr⟩
    rw [gridShapeOf_pairs ⟨hm.1, hk.1⟩ ⟨hmb.1, hnb.1⟩ hprocs]
    unfold gridShapeWith
    rw [hr]
    exact exists_gridShapeBy _ rfl htotal hpos hprocs

/-- A block that lacks one row of the longest matrix leaves that row to a block of its own. -/
theorem grid_counts_blocks_longest :
    exists p q, gridShapeOf (.pair (2 ^ 53 : Nat) (1 : Nat)) (.pair (2 ^ 53 - 1 : Nat) (1 : Nat))
      (.whole (4 : Nat)) = .ok (p, q) ∧ p * q = 2 := by
  rcases (@grid_counts_blocks (2 ^ 53) 1 (2 ^ 53 - 1) 1 4 (by decide) (by decide) (by decide)
    (by decide) (by decide)).2.2 with ⟨p, q, hgrid, hproduct⟩
  have hdown : ⌈((2 ^ 53 : Nat) : Rat) / (2 ^ 53 - 1 : Nat)⌉₊ = 2 := by
    rw [Nat.ceil_eq_iff (by decide)]
    norm_num
  have hacross : ⌈((1 : Nat) : Rat) / (1 : Nat)⌉₊ = 1 := by
    norm_num
  rw [hdown, hacross] at hproduct
  exact ⟨p, q, hgrid, hproduct⟩

end BlockCyclic
