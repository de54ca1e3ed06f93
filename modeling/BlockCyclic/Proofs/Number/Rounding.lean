import BlockCyclic.Number.Rounding
import Mathlib.Algebra.Order.Field.Power
import Mathlib.Data.Rat.Floor
import Mathlib.Tactic.FieldSimp
import Mathlib.Tactic.Linarith
import Mathlib.Tactic.Positivity
import Mathlib.Tactic.Ring

/-!
# Rounding to the nearest value

A rounded quotient is compared with the values that a format holds when its exponents have
no upper bound; what is too large for the format is told apart afterwards. The integer that a
quotient is rounded to is at most one half away from it. In units of the least digit, a value
of the format is an integer, or it lies below the power of two that leads the quotient; so
nothing that the format holds is closer.
-/

namespace BlockCyclic

/-!
# Rounding to integers
-/

section

variable (num : Nat) {den : Nat} (hden : 1 ≤ den)

include hden

theorem quotient_eq_add_remainder :
    (num : Rat) / den = (num / den : Nat) + (num % den : Nat) / den := by
  have hpos : (0 : Rat) < den := Nat.cast_pos.mpr hden
  have hsum : (den : Rat) * (num / den : Nat) + (num % den : Nat) = num := by
    exact_mod_cast Nat.div_add_mod num den
  field_simp
  linarith

/-- An integer is rounded to by less than one half, or by one half to an even one. -/
theorem roundDiv_error :
    |(roundDiv num den : Rat) - num / den| < 1 / 2 ∨
      |(roundDiv num den : Rat) - num / den| = 1 / 2 ∧ Even (roundDiv num den) := by
  have hpos : (0 : Rat) < den := Nat.cast_pos.mpr hden
  have hnonneg : (0 : Rat) ≤ (num % den : Nat) / den := by positivity
  have hlt : ((num % den : Nat) : Rat) / den < 1 := by
    rw [div_lt_one hpos]
    exact_mod_cast Nat.mod_lt num hden
  have hhalf : ((num % den : Nat) : Rat) / den < 1 / 2 ↔ 2 * (num % den) < den := by
    rw [div_lt_div_iff₀ hpos (by norm_num), one_mul, mul_comm]
    exact_mod_cast Iff.rfl
  have hhalf' : 1 / 2 < ((num % den : Nat) : Rat) / den ↔ den < 2 * (num % den) := by
    rw [div_lt_div_iff₀ (by norm_num) hpos, one_mul, mul_comm]
    exact_mod_cast Iff.rfl
  rw [quotient_eq_add_remainder num hden]
  unfold roundDiv
  generalize (num % den : Nat) / (den : Rat) = rest at *
  by_cases hdown : 2 * (num % den) < den
  · left
    simp only [hdown, if_true, sub_add_cancel_left, abs_neg, abs_of_nonneg hnonneg]
    exact hhalf.mpr hdown
  by_cases hup : den < 2 * (num % den)
  · left
    have := hhalf'.mpr hup
    simp only [hdown, hup, if_true, if_false, Nat.cast_add, Nat.cast_one, add_sub_add_left_eq_sub]
    rw [abs_of_nonneg (by linarith)]
    linarith
  · right
    have heq : rest = 1 / 2 :=
      le_antisymm (not_lt.mp fun h => hup (hhalf'.mp h)) (not_lt.mp fun h => hdown (hhalf.mp h))
    simp only [hdown, hup, if_false, Nat.cast_add, add_sub_add_left_eq_sub, heq]
    rcases Nat.mod_two_eq_zero_or_one (num / den) with heven | hodd
    · rw [heven]
      exact ⟨by norm_num, Nat.even_iff.mpr (by omega)⟩
    · rw [hodd]
      exact ⟨by norm_num, Nat.even_iff.mpr (by omega)⟩

theorem roundDiv_error_le : |(roundDiv num den : Rat) - num / den| ≤ 1 / 2 := by
  rcases roundDiv_error num hden with hlt | ⟨heq, _⟩
  · exact hlt.le
  · exact heq.le

/-- Two integers are at least one apart, so that none is nearer than one at half a unit. -/
theorem roundDiv_nearest {z : Nat} (hz : z ≠ roundDiv num den) :
    |(roundDiv num den : Rat) - num / den| < |(z : Rat) - num / den| ∨
      |(roundDiv num den : Rat) - num / den| = |(z : Rat) - num / den| ∧
        Even (roundDiv num den) := by
  have hapart : (1 : Rat) ≤ |(z : Rat) - roundDiv num den| := by
    have hint : (z : Int) - roundDiv num den ≠ 0 := by omega
    exact_mod_cast Int.one_le_abs hint
  have htriangle := abs_sub_le (z : Rat) (num / den) (roundDiv num den)
  rw [abs_sub_comm ((num : Rat) / den)] at htriangle
  rcases roundDiv_error num hden with hlt | ⟨heq, heven⟩
  · left
    linarith
  · rcases eq_or_lt_of_le (show |(roundDiv num den : Rat) - num / den| ≤ |(z : Rat) - num / den|
      by linarith) with hsame | hless
    · exact Or.inr ⟨hsame, heven⟩
    · exact Or.inl hless

end

/-!
# Values of mantissas and exponents
-/

namespace Dyad

def value (d : Dyad) : Rat :=
  d.mantissa * 2 ^ d.exponent

end Dyad

theorem scaleFraction_pos {num den : Nat} (hden : 1 ≤ den) (power : Int) :
    1 ≤ (scaleFraction num den 2 power).2 := by
  cases power with
  | ofNat k => exact hden
  | negSucc k => exact Nat.mul_pos hden (Nat.pow_pos Nat.two_pos)

theorem scaleFraction_value (num den : Nat) (power : Int) :
    ((scaleFraction num den 2 power).1 : Rat) / (scaleFraction num den 2 power).2 =
      num / den * 2 ^ power := by
  cases power with
  | ofNat k =>
      show ((num * 2 ^ k : Nat) : Rat) / den = num / den * 2 ^ (k : Int)
      rw [zpow_natCast, Nat.cast_mul, Nat.cast_pow, Nat.cast_ofNat, mul_div_right_comm]
  | negSucc k =>
      show (num : Rat) / ((den * 2 ^ (k + 1) : Nat) : Rat) = num / den * 2 ^ (Int.negSucc k)
      rw [zpow_negSucc, Nat.cast_mul, Nat.cast_pow, Nat.cast_ofNat, div_mul_eq_div_div,
        div_eq_mul_inv (num / den : Rat)]

theorem roundScaled_error_le (num : Nat) {den : Nat} (hden : 1 ≤ den) (power : Int) :
    |(roundScaled num den 2 power : Rat) - num / den * 2 ^ power| ≤ 1 / 2 := by
  rw [← scaleFraction_value]
  exact roundDiv_error_le _ (scaleFraction_pos hden power)

theorem roundScaled_nearest (num : Nat) {den : Nat} (hden : 1 ≤ den) (power : Int) {z : Nat}
    (hz : z ≠ roundScaled num den 2 power) :
    |(roundScaled num den 2 power : Rat) - num / den * 2 ^ power| <
        |(z : Rat) - num / den * 2 ^ power| ∨
      |(roundScaled num den 2 power : Rat) - num / den * 2 ^ power| =
          |(z : Rat) - num / den * 2 ^ power| ∧
        Even (roundScaled num den 2 power) := by
  rw [← scaleFraction_value]
  exact roundDiv_nearest _ (scaleFraction_pos hden power) hz

theorem distance_scaled (r x : Rat) (unit : Int) :
    |r * 2 ^ unit - x| = |r - x * 2 ^ (-unit)| * 2 ^ unit := by
  have hpos : (0 : Rat) < 2 ^ unit := by positivity
  rw [← abs_of_pos hpos, ← abs_mul, abs_of_pos hpos, sub_mul, mul_assoc,
    ← zpow_add₀ (by norm_num), neg_add_cancel, zpow_zero, mul_one]

theorem Dyad.fraction_value (d : Dyad) : (d.fraction.1 : Rat) / d.fraction.2 = d.value := by
  unfold fraction
  rw [scaleFraction_value, Nat.cast_one, div_one]
  rfl

theorem Dyad.ceil_eq (d : Dyad) : d.ceil = ⌈d.value⌉₊ := by
  have hpos : 1 ≤ d.fraction.2 := scaleFraction_pos (Nat.le_refl 1) d.exponent
  have hcast : (0 : Rat) < d.fraction.2 := Nat.cast_pos.mpr hpos
  -- Both are the least bound of the value among the integers.
  have hbound : forall k : Nat, d.ceil ≤ k ↔ ⌈d.value⌉₊ ≤ k := by
    intro k
    rw [Nat.ceil_le, ← d.fraction_value, div_le_iff₀ hcast]
    unfold ceil
    rw [Nat.div_le_iff_le_mul_add_pred hpos, ← Nat.cast_mul, Nat.cast_le, Nat.mul_comm k]
    omega
  exact Nat.le_antisymm ((hbound _).mpr (Nat.le_refl _)) ((hbound _).mp (Nat.le_refl _))

/-!
# The nearest value of a format
-/

namespace BinaryFormat

/-- The format holds the value, or would if its exponents had no upper bound. -/
def Holds (f : BinaryFormat) (v : Rat) : Prop :=
  exists (m : Nat) (e : Int), m < 2 ^ f.digits ∧ f.minExponent ≤ e ∧ v = m * 2 ^ e

/-- No value of the format is closer, and one equally close gives way to an even mantissa. -/
structure Nearest (f : BinaryFormat) (x : Rat) (d : Dyad) : Prop where
  held : f.Holds d.value
  closest : forall v, f.Holds v -> |d.value - x| ≤ |v - x|
  even : forall v, f.Holds v -> v ≠ d.value -> |d.value - x| = |v - x| -> Even d.mantissa

def nearestMultiple (f : BinaryFormat) (num den : Nat) : Dyad :=
  ⟨roundScaled num den 2 (-f.unitExponent num den), f.unitExponent num den⟩

variable {f : BinaryFormat} {num den : Nat}

/-- A mantissa that needs one more bit is a power of two, and a half of it fits. -/
theorem holds_of_le (hdigits : 1 ≤ f.digits) {m : Nat} {e : Int} (hm : m ≤ 2 ^ f.digits)
    (he : f.minExponent ≤ e) : f.Holds (m * 2 ^ e) := by
  rcases Nat.lt_or_eq_of_le hm with hlt | rfl
  · exact ⟨m, e, hlt, he, rfl⟩
  · refine ⟨2 ^ (f.digits - 1), e + 1, Nat.pow_lt_pow_right (by decide) (by omega), by omega, ?_⟩
    rw [zpow_add_one₀ (by norm_num), Nat.cast_pow, Nat.cast_pow, mul_comm ((2 : Rat) ^ e),
      ← mul_assoc, Nat.cast_ofNat, pow_sub_one_mul (by omega)]

theorem overflows_iff (f : BinaryFormat) (d : Dyad) :
    f.overflows d = true ↔ (2 : Rat) ^ f.maxExponent ≤ d.value := by
  have hpos : (0 : Rat) < (scaleFraction d.mantissa 1 2 (d.exponent - f.maxExponent)).2 :=
    Nat.cast_pos.mpr (scaleFraction_pos (Nat.le_refl 1) _)
  have htop : (0 : Rat) < 2 ^ f.maxExponent := by positivity
  unfold overflows
  rw [decide_eq_true_iff, ← @Nat.cast_le Rat, ← one_le_div hpos, scaleFraction_value,
    zpow_sub₀ (by norm_num), Nat.cast_one, div_one, ← mul_div_assoc, one_le_div htop]
  rfl

/-- The unit is the one of the power of two that leads the quotient, unless it is too small. -/
theorem unitExponent_eq (f : BinaryFormat) (hnum : 1 ≤ num) (hden : 1 ≤ den) :
    exists top : Int, (2 : Rat) ^ top ≤ num / den ∧ (num : Rat) / den < 2 ^ (top + 1) ∧
      f.unitExponent num den = max (top + 1 - f.digits) f.minExponent := by
  have hdenpos : (0 : Rat) < den := Nat.cast_pos.mpr hden
  have hnumlow : (2 : Rat) ^ Nat.log2 num ≤ num := by
    exact_mod_cast Nat.log2_self_le (Nat.ne_of_gt hnum)
  have hdenlow : (2 : Rat) ^ Nat.log2 den ≤ den := by
    exact_mod_cast Nat.log2_self_le (Nat.ne_of_gt hden)
  have hnumup : (num : Rat) < 2 ^ Nat.log2 num * 2 := by
    exact_mod_cast Nat.lt_log2_self (n := num)
  have hdenup : (den : Rat) < 2 ^ Nat.log2 den * 2 := by
    exact_mod_cast Nat.lt_log2_self (n := den)
  generalize hk : (Nat.log2 num : Int) - Nat.log2 den = k
  have hpower : (2 : Rat) ^ k * 2 ^ Nat.log2 den = 2 ^ Nat.log2 num := by
    rw [← zpow_natCast, ← zpow_natCast, ← zpow_add₀ (by norm_num), ← hk, sub_add_cancel]
  have hpowerpos : (0 : Rat) < 2 ^ k := by positivity
  have hscaled : (scaleFraction num den 2 (-k)).2 ≤ (scaleFraction num den 2 (-k)).1 ↔
      (2 : Rat) ^ k ≤ num / den := by
    have hpos : (0 : Rat) < (scaleFraction num den 2 (-k)).2 :=
      Nat.cast_pos.mpr (scaleFraction_pos hden _)
    rw [← @Nat.cast_le Rat, ← one_le_div hpos, scaleFraction_value, zpow_neg,
      ← div_eq_mul_inv, one_le_div hpowerpos]
  unfold unitExponent
  simp only [hk]
  by_cases htop : (2 : Rat) ^ k ≤ num / den
  · refine ⟨k, htop, ?_, by rw [if_pos (hscaled.mpr htop)]⟩
    rw [div_lt_iff₀ hdenpos, zpow_add_one₀ (by norm_num)]
    nlinarith
  · refine ⟨k - 1, ?_, ?_, by rw [if_neg (fun h => htop (hscaled.mp h))]⟩
    · rw [le_div_iff₀ hdenpos, zpow_sub_one₀ (by norm_num)]
      nlinarith
    · rw [sub_add_cancel]
      exact not_le.mp htop

section

variable (f) (hnum : 1 ≤ num) (hden : 1 ≤ den)

include hnum hden

theorem quotient_le_unit :
    (num : Rat) / den ≤ (2 ^ f.digits : Nat) * 2 ^ f.unitExponent num den := by
  rcases f.unitExponent_eq hnum hden with ⟨top, _, hup, hunit⟩
  refine hup.le.trans ?_
  rw [Nat.cast_pow, Nat.cast_ofNat, ← zpow_natCast, ← zpow_add₀ (by norm_num)]
  apply zpow_le_zpow_right₀ (by norm_num)
  omega

/-- A value of the format is a multiple of the unit, or one lies between it and the quotient. -/
theorem multiple_of_holds {v : Rat} (hv : f.Holds v) :
    exists z : Nat, v = z * 2 ^ f.unitExponent num den ∨
      v < z * 2 ^ f.unitExponent num den ∧ z * 2 ^ f.unitExponent num den ≤ (num : Rat) / den := by
  rcases hv with ⟨m, e, hm, he, rfl⟩
  rcases f.unitExponent_eq hnum hden with ⟨top, hlow, _, hunit⟩
  generalize f.unitExponent num den = unit at *
  rcases le_or_gt unit e with hcoarse | hfine
  · refine ⟨m * 2 ^ (e - unit).toNat, Or.inl ?_⟩
    rw [Nat.cast_mul, Nat.cast_pow, Nat.cast_ofNat, ← zpow_natCast, mul_assoc,
      ← zpow_add₀ (by norm_num), Int.toNat_of_nonneg (by omega), sub_add_cancel]
  · -- The least exponent does not stop the unit here, so the leading power is a multiple of it.
    have hlead : unit = top + 1 - f.digits := by omega
    have hbelow : (m : Rat) * 2 ^ e < 2 ^ top := by
      have hcast : (m : Rat) < 2 ^ (f.digits : Int) := by exact_mod_cast hm
      calc (m : Rat) * 2 ^ e < 2 ^ (f.digits : Int) * 2 ^ e := by gcongr
        _ = 2 ^ ((f.digits : Int) + e) := (zpow_add₀ (by norm_num) _ _).symm
        _ ≤ 2 ^ top := zpow_le_zpow_right₀ (by norm_num) (by omega)
    rcases Nat.eq_zero_or_pos f.digits with hzero | hpos
    · rw [hzero, pow_zero, Nat.lt_one_iff] at hm
      exact ⟨0, Or.inl (by rw [hm, Nat.cast_zero, zero_mul, zero_mul])⟩
    · have hpower : ((2 ^ (f.digits - 1) : Nat) : Rat) * 2 ^ unit = 2 ^ top := by
        rw [Nat.cast_pow, Nat.cast_ofNat, ← zpow_natCast, ← zpow_add₀ (by norm_num)]
        congr 1
        omega
      refine ⟨2 ^ (f.digits - 1), Or.inr ?_⟩
      rw [hpower]
      exact ⟨hbelow, hlow⟩

theorem mantissa_nearestMultiple_le : (f.nearestMultiple num den).mantissa ≤ 2 ^ f.digits := by
  have hle := f.quotient_le_unit hnum hden
  have hclose := roundScaled_error_le num hden (-f.unitExponent num den)
  unfold nearestMultiple
  generalize f.unitExponent num den = unit at *
  have hpos : (0 : Rat) < 2 ^ unit := by positivity
  have hscaled : (num : Rat) / den * 2 ^ (-unit) ≤ (2 ^ f.digits : Nat) := by
    rwa [zpow_neg, ← div_eq_mul_inv, div_le_iff₀ hpos]
  have hlt : (roundScaled num den 2 (-unit) : Rat) < (2 ^ f.digits : Nat) + 1 := by
    linarith [(abs_le.mp hclose).2]
  exact Nat.lt_succ_iff.mp (by exact_mod_cast hlt)

omit hnum in
/-- Another multiple of the unit is not closer, and one equally close gives way to an even one. -/
theorem multiple_not_closer {z : Nat} (hz : z ≠ (f.nearestMultiple num den).mantissa) :
    |(f.nearestMultiple num den).value - num / den| <
        |(z : Rat) * 2 ^ f.unitExponent num den - num / den| ∨
      |(f.nearestMultiple num den).value - num / den| =
          |(z : Rat) * 2 ^ f.unitExponent num den - num / den| ∧
        Even (f.nearestMultiple num den).mantissa := by
  have hpos : (0 : Rat) < 2 ^ f.unitExponent num den := by positivity
  unfold Dyad.value nearestMultiple
  simp only [distance_scaled]
  rcases roundScaled_nearest num hden (-f.unitExponent num den) hz with hlt | ⟨heq, heven⟩
  · exact Or.inl (mul_lt_mul_of_pos_right hlt hpos)
  · exact Or.inr ⟨by rw [heq], heven⟩

theorem held_not_closer {v : Rat} (hv : f.Holds v)
    (hne : v ≠ (f.nearestMultiple num den).value) :
    |(f.nearestMultiple num den).value - num / den| < |v - num / den| ∨
      |(f.nearestMultiple num den).value - num / den| = |v - num / den| ∧
        Even (f.nearestMultiple num den).mantissa := by
  rcases f.multiple_of_holds hnum hden hv with ⟨z, rfl | ⟨hbelow, habove⟩⟩
  · exact f.multiple_not_closer hden fun hz => hne (by rw [hz]; rfl)
  · left
    have hnear : |(f.nearestMultiple num den).value - num / den| ≤
        |(z : Rat) * 2 ^ f.unitExponent num den - num / den| := by
      rcases eq_or_ne z (f.nearestMultiple num den).mantissa with rfl | hz
      · exact le_rfl
      · rcases f.multiple_not_closer hden hz with hlt | ⟨heq, _⟩
        · exact hlt.le
        · exact heq.le
    refine lt_of_le_of_lt hnear ?_
    rw [abs_of_nonpos (by linarith), abs_of_nonpos (by linarith)]
    linarith

theorem nearest_nearestMultiple (hdigits : 1 ≤ f.digits) :
    f.Nearest ((num : Rat) / den) (f.nearestMultiple num den) where
  held := holds_of_le hdigits (f.mantissa_nearestMultiple_le hnum hden) (le_max_right _ _)
  closest := fun v hv => by
    rcases eq_or_ne v (f.nearestMultiple num den).value with rfl | hne
    · exact le_rfl
    · rcases f.held_not_closer hnum hden hv hne with hlt | ⟨heq, _⟩
      · exact hlt.le
      · exact heq.le
  even := fun v hv hne htie => by
    rcases f.held_not_closer hnum hden hv hne with hlt | ⟨_, heven⟩
    · exact absurd htie (ne_of_lt hlt)
    · exact heven

end

/-- What is rounded to is the nearest value, unless that is too large for the format. -/
theorem exists_round? (f : BinaryFormat) (hdigits : 1 ≤ f.digits) (num : Nat) (hden : 1 ≤ den) :
    exists d, f.Nearest ((num : Rat) / den) d ∧
      f.round? num den = if f.overflows d then none else some d := by
  rcases Nat.eq_zero_or_pos num with rfl | hnum
  · have hvalue : Dyad.value ⟨0, f.minExponent⟩ = 0 := by
      unfold Dyad.value
      rw [Nat.cast_zero, zero_mul]
    refine ⟨⟨0, f.minExponent⟩, ⟨?_, ?_, fun _ _ _ _ => Even.zero⟩, ?_⟩
    · exact ⟨0, f.minExponent, Nat.pow_pos Nat.two_pos, le_rfl, rfl⟩
    · intro v _
      rw [hvalue, Nat.cast_zero, zero_div, sub_zero, abs_zero]
      exact abs_nonneg _
    · have hfinite : ¬ f.overflows ⟨0, f.minExponent⟩ = true := by
        rw [overflows_iff, hvalue, not_le]
        positivity
      rw [if_neg hfinite]
      rfl
  · refine ⟨_, f.nearest_nearestMultiple hnum hden hdigits, ?_⟩
    unfold round?
    rw [if_neg (Nat.ne_of_gt hnum)]
    rfl

end BinaryFormat
end BlockCyclic
