import Mathlib.Algebra.Order.Field.Power
import Mathlib.Algebra.Order.Field.Rat
import Mathlib.Data.Int.Log
import Mathlib.Data.Rat.Floor
import Mathlib.Tactic.FieldSimp
import Mathlib.Tactic.Linarith
import Mathlib.Tactic.Positivity
import Mathlib.Tactic.Ring
import Templating.Number.Binary64

/-!
Rounding depends on the value of a fraction alone and leaves the values that are already binary as
they are.
-/

namespace Templating.Binary64

theorem twoTo_eq (exponent : Int) : twoTo exponent = 2 ^ exponent.toNat := by
  rw [twoTo, Nat.one_shiftLeft]

theorem tenTo_eq (exponent : Int) : tenTo exponent = 10 ^ exponent.toNat :=
  rfl

theorem twoTo_precision : twoTo precision = 2 ^ precision := by
  rw [twoTo_eq, Int.toNat_natCast]

/-- A finite value with all its bits in use, down to the smallest place there is. -/
structure IsCanonical (significand : Nat) (exponent : Int) : Prop where
  short : significand < 2 ^ precision
  least : leastExponent ≤ exponent
  greatest : exponent ≤ greatestExponent
  full : 2 ^ 52 ≤ significand ∨ exponent = leastExponent

theorem roundDiv_mul (num den : Nat) {factor : Nat} (positive : 0 < factor) :
    roundDiv (num * factor) (den * factor) = roundDiv num den := by
  have twice : 2 * (num % den * factor) = 2 * (num % den) * factor := (Nat.mul_assoc _ _ _).symm
  simp only [roundDiv, Nat.mul_div_mul_right _ _ positive, Nat.mul_mod_mul_right, twice,
    Nat.mul_lt_mul_right positive]

theorem roundDiv_congr {num den num' den' : Nat} (same : num * den' = num' * den)
    (positive : 0 < den) (positive' : 0 < den') : roundDiv num den = roundDiv num' den' := by
  rw [← roundDiv_mul num den positive', ← roundDiv_mul num' den' positive, same,
    Nat.mul_comm den den']

theorem roundDiv_whole (whole : Nat) {den : Nat} (positive : 0 < den) :
    roundDiv (whole * den) den = whole := by
  have same := roundDiv_mul whole 1 positive
  rw [Nat.one_mul] at same
  rw [same]
  simp [roundDiv, Nat.mod_one]

theorem roundDiv_le {num den bound : Nat} (positive : 0 < den) (most : num ≤ bound * den) :
    roundDiv num den ≤ bound := by
  have split := Nat.div_add_mod num den
  have small := Nat.mod_lt num positive
  have quotient : num / den ≤ bound := Nat.div_le_of_le_mul (by rwa [Nat.mul_comm] at most)
  by_cases whole : num / den = bound
  · have rest : num % den = 0 := by
      rw [whole, Nat.mul_comm] at split
      omega
    simp [roundDiv, rest, whole, positive]
  · simp only [roundDiv]
    split
    · omega
    · split <;> omega

theorem le_roundDiv {num den bound : Nat} (positive : 0 < den) (least : bound * den ≤ num) :
    bound ≤ roundDiv num den := by
  have quotient : bound ≤ num / den := (Nat.le_div_iff_mul_le positive).mpr least
  simp only [roundDiv]
  split
  · exact quotient
  · split <;> omega

theorem two_zpow (exponent : Int) :
    (2 : ℚ) ^ exponent = 2 ^ exponent.toNat / 2 ^ (-exponent).toNat := by
  rw [← zpow_natCast, ← zpow_natCast, ← zpow_sub₀ (by norm_num)]
  congr 1
  omega

theorem scaleDown_positive {num den : Nat} (positive : 0 < den) (exponent : Int) :
    0 < (scaleDown num den exponent).2 := by
  simp only [scaleDown, twoTo_eq]
  exact Nat.mul_pos positive (Nat.two_pow_pos _)

theorem scaleDown_fraction (num : Nat) {den : Nat} (positive : 0 < den) (exponent : Int) :
    ((scaleDown num den exponent).1 : ℚ) / (scaleDown num den exponent).2 =
      (num : ℚ) / den / 2 ^ exponent := by
  have nonzero : (den : ℚ) ≠ 0 := by positivity
  rw [two_zpow]
  simp only [scaleDown, twoTo_eq]
  push_cast
  field_simp

theorem scaleDown_le {num den : Nat} (positive : 0 < den) (exponent : Int) (bound : Nat) :
    (scaleDown num den exponent).1 ≤ bound * (scaleDown num den exponent).2 ↔
      (num : ℚ) / den ≤ bound * 2 ^ exponent := by
  have below : (0 : ℚ) < (scaleDown num den exponent).2 :=
    Nat.cast_pos.mpr (scaleDown_positive positive exponent)
  rw [← div_le_iff₀ (by positivity), ← scaleDown_fraction num positive, div_le_iff₀ below]
  norm_cast

theorem le_scaleDown (num : Nat) {den : Nat} (positive : 0 < den) (exponent : Int) (bound : Nat) :
    bound * (scaleDown num den exponent).2 ≤ (scaleDown num den exponent).1 ↔
      bound * 2 ^ exponent ≤ (num : ℚ) / den := by
  have below : (0 : ℚ) < (scaleDown num den exponent).2 :=
    Nat.cast_pos.mpr (scaleDown_positive positive exponent)
  rw [← le_div_iff₀ (by positivity), ← scaleDown_fraction num positive, le_div_iff₀ below]
  norm_cast

theorem natCast_log2_le {value : Nat} (positive : 0 < value) :
    (2 : ℚ) ^ (value.log2 : Int) ≤ value := by
  rw [zpow_natCast]
  exact_mod_cast Nat.log2_self_le positive.ne'

theorem natCast_lt_log2 (value : Nat) : (value : ℚ) < 2 ^ ((value.log2 : Int) + 1) := by
  rw [← Nat.cast_succ, zpow_natCast]
  exact_mod_cast Nat.lt_log2_self

/-- The last place is found from the leading bit of the fraction. -/
theorem lastPlace_eq {num den : Nat} (positiveNum : 0 < num) (positive : 0 < den) :
    lastPlace num den = max (Int.log 2 ((num : ℚ) / den) - 52) leastExponent := by
  have above : (0 : ℚ) < num := by positivity
  have below : (0 : ℚ) < den := by positivity
  have fraction : (0 : ℚ) < (num : ℚ) / den := by positivity
  have least : (2 : ℚ) ^ ((num.log2 : Int) - den.log2 - 1) < num / den := by
    rw [lt_div_iff₀ below]
    calc (2 : ℚ) ^ ((num.log2 : Int) - den.log2 - 1) * den
        < 2 ^ ((num.log2 : Int) - den.log2 - 1) * 2 ^ ((den.log2 : Int) + 1) :=
          mul_lt_mul_of_pos_left (natCast_lt_log2 den) (by positivity)
      _ = 2 ^ (num.log2 : Int) := by
          rw [← zpow_add₀ (by norm_num)]
          congr 1
          omega
      _ ≤ num := natCast_log2_le positiveNum
  have greatest : (num : ℚ) / den < 2 ^ ((num.log2 : Int) - den.log2 + 1) := by
    rw [div_lt_iff₀ below]
    calc (num : ℚ) < 2 ^ ((num.log2 : Int) + 1) := natCast_lt_log2 num
      _ = 2 ^ ((num.log2 : Int) - den.log2 + 1) * 2 ^ (den.log2 : Int) := by
          rw [← zpow_add₀ (by norm_num)]
          congr 1
          omega
      _ ≤ _ := mul_le_mul_of_nonneg_left (natCast_log2_le positive) (by positivity)
  have atLeast := (Int.zpow_le_iff_le_log (by decide : 1 < 2) fraction).mp least.le
  have atMost := (Int.lt_zpow_iff_log_lt (by decide : 1 < 2) fraction).mp greatest
  have reached := le_scaleDown num positive ((num.log2 : Int) - den.log2) 1
  rw [Nat.one_mul, Nat.cast_one, one_mul] at reached
  have settled := reached.trans (Int.zpow_le_iff_le_log (by decide : 1 < 2) fraction)
  simp only [lastPlace]
  split
  case isTrue here =>
    have leading := settled.mp here
    congr 2
    omega
  case isFalse here =>
    have leading := fun high => here (settled.mpr high)
    congr 2
    omega

/-- Two ways to write one fraction are rounded to the same value. -/
theorem ofRatio_congr (negative : Bool) {num den num' den' : Nat} (same : num * den' = num' * den)
    (positive : 0 < den) (positive' : 0 < den') :
    ofRatio negative num den = ofRatio negative num' den' := by
  rcases Nat.eq_zero_or_pos num with rfl | positiveNum
  · have zero : num' = 0 := by
      rw [Nat.zero_mul, eq_comm, Nat.mul_eq_zero] at same
      exact same.resolve_right positive.ne'
    rw [zero]
    rfl
  · have positiveNum' : 0 < num' := by
      apply Nat.pos_of_ne_zero
      rintro rfl
      rw [Nat.zero_mul, Nat.mul_eq_zero] at same
      omega
    have nonzero : (den : ℚ) ≠ 0 := by positivity
    have nonzero' : (den' : ℚ) ≠ 0 := by positivity
    have fraction : (num : ℚ) / den = num' / den' := by
      rw [div_eq_div_iff nonzero nonzero']
      exact_mod_cast same
    have place : lastPlace num den = lastPlace num' den' := by
      rw [lastPlace_eq positiveNum positive, lastPlace_eq positiveNum' positive', fraction]
    have rounded : roundDiv (scaleDown num den (lastPlace num' den')).1
          (scaleDown num den (lastPlace num' den')).2 =
        roundDiv (scaleDown num' den' (lastPlace num' den')).1
          (scaleDown num' den' (lastPlace num' den')).2 := by
      apply roundDiv_congr _ (scaleDown_positive positive _) (scaleDown_positive positive' _)
      simp only [scaleDown, twoTo_eq]
      calc num * 2 ^ (-lastPlace num' den').toNat * (den' * 2 ^ (lastPlace num' den').toNat)
          = num * den' * (2 ^ (-lastPlace num' den').toNat * 2 ^ (lastPlace num' den').toNat) := by
            ring
        _ = num' * den * (2 ^ (-lastPlace num' den').toNat * 2 ^ (lastPlace num' den').toNat) := by
            rw [same]
        _ = _ := by ring
    simp only [ofRatio, positiveNum.ne', positiveNum'.ne', if_false, place, rounded]

/-- Every finite result of rounding is canonical. -/
theorem ofRatio_canonical {negative sign : Bool} {num den significand : Nat} {exponent : Int}
    (positive : 0 < den) (rounds : ofRatio negative num den = finite sign significand exponent) :
    IsCanonical significand exponent := by
  unfold ofRatio at rounds
  split at rounds
  · cases rounds
    exact ⟨by decide, le_rfl, by decide, .inr rfl⟩
  case isFalse nonzero =>
    have positiveNum : 0 < num := Nat.pos_of_ne_zero nonzero
    have fraction : (0 : ℚ) < (num : ℚ) / den := by positivity
    have place := lastPlace_eq positiveNum positive
    have below : (num : ℚ) / den ≤ (2 ^ precision : Nat) * 2 ^ lastPlace num den := by
      have less := Int.lt_zpow_succ_log_self (by decide : 1 < 2) ((num : ℚ) / den)
      refine less.le.trans ?_
      rw [Nat.cast_pow, Nat.cast_ofNat, ← zpow_natCast, ← zpow_add₀ (by norm_num)]
      apply zpow_le_zpow_right₀ (by norm_num)
      rw [place, precision]
      omega
    have most := roundDiv_le (scaleDown_positive positive _)
      ((scaleDown_le positive (lastPlace num den) (2 ^ precision)).mpr below)
    have least : leastExponent ≤ lastPlace num den := by
      rw [place]
      exact le_max_right _ _
    have full : lastPlace num den ≠ leastExponent →
        2 ^ 52 ≤ roundDiv (scaleDown num den (lastPlace num den)).1
          (scaleDown num den (lastPlace num den)).2 := by
      intro inside
      apply le_roundDiv (scaleDown_positive positive _)
      rw [le_scaleDown num positive]
      refine le_trans ?_ (Int.zpow_log_le_self (by decide : 1 < 2) fraction)
      rw [Nat.cast_pow, Nat.cast_ofNat, ← zpow_natCast, ← zpow_add₀ (by norm_num)]
      apply zpow_le_zpow_right₀ (by norm_num)
      have settled : lastPlace num den = Int.log 2 ((num : ℚ) / den) - 52 := by omega
      rw [settled]
      omega
    simp only at rounds
    split at rounds
    case isTrue short =>
      split at rounds <;> cases rounds
      case isTrue.refl greatest =>
        refine ⟨short, least, greatest, ?_⟩
        by_cases last : lastPlace num den = leastExponent
        · exact .inr last
        · exact .inl (full last)
    case isFalse long =>
      split at rounds <;> cases rounds
      case isTrue.refl greatest =>
        have exact : roundDiv (scaleDown num den (lastPlace num den)).1
            (scaleDown num den (lastPlace num den)).2 = 2 ^ precision :=
          Nat.le_antisymm most (Nat.le_of_not_lt long)
        rw [exact]
        exact ⟨by decide, by omega, greatest, .inl (by decide)⟩

/-- A canonical value other than zero is not changed by rounding. -/
theorem ofRatio_exact (negative : Bool) {significand : Nat} {exponent : Int}
    (canonical : IsCanonical significand exponent) (nonzero : significand ≠ 0) :
    ofRatio negative (significand * twoTo exponent) (twoTo (-exponent)) =
      finite negative significand exponent := by
  obtain ⟨short, least, greatest, full⟩ := canonical
  simp only [twoTo_eq]
  have positive : 0 < 2 ^ (-exponent).toNat := Nat.pow_pos (by decide)
  have positiveNum : 0 < significand * 2 ^ exponent.toNat :=
    Nat.mul_pos (Nat.pos_of_ne_zero nonzero) (Nat.pow_pos (by decide))
  have above : (0 : ℚ) < significand := by exact_mod_cast Nat.pos_of_ne_zero nonzero
  have fraction : ((significand * 2 ^ exponent.toNat : Nat) : ℚ) / (2 ^ (-exponent).toNat : Nat) =
      significand * 2 ^ exponent := by
    rw [two_zpow]
    push_cast
    ring
  have value : (0 : ℚ) < significand * 2 ^ exponent := by positivity
  have less : (significand : ℚ) * 2 ^ exponent < 2 ^ (53 + exponent) := by
    rw [zpow_add₀ (by norm_num)]
    apply mul_lt_mul_of_pos_right _ (by positivity)
    exact_mod_cast short
  have atMost := (Int.lt_zpow_iff_log_lt (by decide : 1 < 2) value).mp less
  have place : lastPlace (significand * 2 ^ exponent.toNat) (2 ^ (-exponent).toNat) = exponent := by
    rw [lastPlace_eq positiveNum positive, fraction]
    rcases full with full | last
    · have reached : (2 : ℚ) ^ (52 + exponent) ≤ significand * 2 ^ exponent := by
        rw [zpow_add₀ (by norm_num)]
        apply mul_le_mul_of_nonneg_right _ (by positivity)
        exact_mod_cast full
      have atLeast := (Int.zpow_le_iff_le_log (by decide : 1 < 2) value).mp reached
      omega
    · omega
  have rounded : roundDiv (scaleDown (significand * 2 ^ exponent.toNat) (2 ^ (-exponent).toNat)
        exponent).1 (scaleDown (significand * 2 ^ exponent.toNat) (2 ^ (-exponent).toNat)
        exponent).2 = significand := by
    simp only [scaleDown, twoTo_eq]
    rw [Nat.mul_assoc, Nat.mul_comm (2 ^ exponent.toNat)]
    exact roundDiv_whole significand (Nat.mul_pos positive (Nat.pow_pos (by decide)))
  simp only [ofRatio, positiveNum.ne', if_false, place, rounded, twoTo_precision, short, greatest,
    if_true]

end Templating.Binary64
