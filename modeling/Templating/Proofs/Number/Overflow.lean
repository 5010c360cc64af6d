import Templating.Proofs.Number.Rounding
import Templating.Value.Operation

/-!
When rounding gives no finite value, and which operations on numbers fail for that: those that take
a whole number to floating point that is too large for it.
-/

namespace Templating

namespace Binary64

/-- A half between an odd number and an even one counts as the even one. -/
theorem le_roundDiv_iff {num den bound : Nat} (positive : 0 < den) (even : bound % 2 = 0) :
    bound ≤ roundDiv num den ↔ 2 * (bound * den) ≤ 2 * num + den := by
  have split := Nat.div_add_mod num den
  have small := Nat.mod_lt num positive
  rw [Nat.mul_comm] at split
  have rounds : roundDiv num den =
      if 2 * (num % den) < den then num / den
      else if den < 2 * (num % den) then num / den + 1
      else num / den + num / den % 2 := rfl
  rcases lt_trichotomy bound (num / den + 1) with below | same | above
  · have most := Nat.mul_le_mul_right den (Nat.le_of_lt_succ below)
    refine iff_of_true ?_ (by omega)
    rw [rounds]
    split
    · omega
    · split <;> omega
  · rw [same, Nat.add_mul, Nat.one_mul, rounds]
    split
    · omega
    · split <;> omega
  · have least := Nat.mul_le_mul_right den (Nat.succ_le_of_lt above)
    rw [Nat.succ_mul, Nat.add_mul, Nat.one_mul] at least
    refine iff_of_false ?_ (by omega)
    rw [rounds]
    split
    · omega
    · split <;> omega

/-- Halfway from the greatest finite value to the next power of two, from where rounding gives no
finite value. -/
def finiteBound : ℚ :=
  (2 ^ 54 - 1) * 2 ^ (970 : Int)

theorem finiteBound_positive : 0 < finiteBound :=
  mul_pos (by norm_num) (zpow_pos two_pos _)

theorem two_zpow_le_finiteBound : (2 : ℚ) ^ (1023 : Int) ≤ finiteBound := by
  have parts : (2 : ℚ) ^ (1023 : Int) = 2 ^ 53 * 2 ^ (970 : Int) := by
    rw [← zpow_natCast, ← zpow_add₀ two_ne_zero]
    rfl
  rw [parts, finiteBound]
  exact mul_le_mul_of_nonneg_right (by norm_num) (zpow_nonneg zero_le_two _)

theorem finiteBound_le_two_zpow : finiteBound ≤ (2 : ℚ) ^ (1024 : Int) := by
  have parts : (2 : ℚ) ^ (1024 : Int) = 2 ^ 54 * 2 ^ (970 : Int) := by
    rw [← zpow_natCast, ← zpow_add₀ two_ne_zero]
    rfl
  rw [parts, finiteBound]
  exact mul_le_mul_of_nonneg_right (by norm_num) (zpow_nonneg zero_le_two _)

/-- Rounding to 53 bits in the greatest place carries out of it from the bound on. -/
theorem carries_iff {num den : Nat} (positive : 0 < den) :
    twoTo precision ≤
        roundDiv (scaleDown num den greatestExponent).1 (scaleDown num den greatestExponent).2 ↔
      finiteBound ≤ (num : ℚ) / den := by
  have below : 0 < (scaleDown num den greatestExponent).2 := scaleDown_positive positive _
  have scaled := scaleDown_fraction num positive greatestExponent
  rw [twoTo_precision, le_roundDiv_iff below (by decide)]
  generalize scaleDown num den greatestExponent = fraction at below scaled
  obtain ⟨top, bottom⟩ := fraction
  dsimp only at below scaled ⊢
  have bottomPositive : (0 : ℚ) < bottom := Nat.cast_pos.mpr below
  have unit : finiteBound = (2 ^ 54 - 1) / 2 * 2 ^ greatestExponent := by
    have parts : (2 : ℚ) ^ greatestExponent = 2 * 2 ^ (970 : Int) := by
      rw [← zpow_one_add₀ two_ne_zero]
      rfl
    rw [parts, finiteBound]
    ring
  rw [unit, ← le_div_iff₀ (by positivity), ← scaled, div_le_div_iff₀ two_pos bottomPositive,
    precision]
  rw [← @Nat.cast_le ℚ]
  push_cast
  constructor
  · intro most
    linarith
  · intro most
    linarith

theorem ofRatio_isFinite (negative : Bool) {num den : Nat} (positiveNum : 0 < num)
    (positive : 0 < den) :
    (ofRatio negative num den).isFinite = true ↔ (num : ℚ) / den < finiteBound := by
  have fraction : (0 : ℚ) < (num : ℚ) / den := by positivity
  have place := lastPlace_eq positiveNum positive
  have least := Int.zpow_log_le_self (by decide : 1 < 2) fraction
  have greatest := Int.lt_zpow_succ_log_self (by decide : 1 < 2) ((num : ℚ) / den)
  rw [Nat.cast_ofNat] at least greatest
  rw [leastExponent] at place
  simp only [ofRatio, positiveNum.ne', if_false]
  rcases lt_trichotomy (lastPlace num den) greatestExponent with low | edge | high
  · rw [if_pos low.le, if_pos (Int.add_one_le_of_lt low)]
    rw [greatestExponent] at low
    refine iff_of_true ?_ ?_
    · split <;> rfl
    · calc (num : ℚ) / den < 2 ^ (Int.log 2 ((num : ℚ) / den) + 1) := greatest
        _ ≤ 2 ^ (1023 : Int) := zpow_le_zpow_right₀ one_le_two (by omega)
        _ ≤ finiteBound := two_zpow_le_finiteBound
  · rw [edge]
    split
    case isTrue short =>
      rw [if_pos le_rfl]
      exact iff_of_true rfl (not_le.mp fun great => short.not_ge ((carries_iff positive).mpr great))
    case isFalse long =>
      rw [if_neg (by decide)]
      exact iff_of_false Bool.false_ne_true ((carries_iff positive).mp (not_lt.mp long)).not_gt
  · rw [if_neg high.not_ge, if_neg (not_le.mpr (high.trans (Int.lt_succ _)))]
    rw [greatestExponent] at high
    refine iff_of_false ?_ (not_lt.mpr ?_)
    · rw [ite_self]
      exact Bool.false_ne_true
    · calc finiteBound ≤ 2 ^ (1024 : Int) := finiteBound_le_two_zpow
        _ ≤ 2 ^ Int.log 2 ((num : ℚ) / den) := zpow_le_zpow_right₀ one_le_two (by omega)
        _ ≤ num / den := least

/-- A fraction whose numerator fits into floating point does so too. -/
theorem ofRatio_isFinite_of_whole {negative other : Bool} {num den : Nat} (positive : 0 < den)
    (whole : (ofRatio other num 1).isFinite = true) : (ofRatio negative num den).isFinite = true := by
  rcases Nat.eq_zero_or_pos num with rfl | positiveNum
  · rfl
  · have fits := (ofRatio_isFinite other positiveNum Nat.one_pos).mp whole
    rw [Nat.cast_one, div_one] at fits
    rw [ofRatio_isFinite negative positiveNum positive]
    exact (div_le_self (Nat.cast_nonneg num) (Nat.one_le_cast.mpr positive)).trans_lt fits

end Binary64

namespace Number

/-- A whole number that is too large for floating point, of either sign. -/
def IsHuge : Number → Prop
  | int value => Binary64.finiteBound ≤ value.natAbs
  | float _ => False

theorem toBinary?_eq_none {number : Number} : number.toBinary? = none ↔ number.IsHuge := by
  cases number with
  | float value => exact iff_of_false (fun same => by cases same) id
  | int value =>
      have fits : (Binary64.ofInt value).isFinite = true ↔
          (value.natAbs : ℚ) < Binary64.finiteBound := by
        rcases Nat.eq_zero_or_pos value.natAbs with zero | positive
        · rw [Binary64.ofInt, zero, Nat.cast_zero]
          exact iff_of_true rfl Binary64.finiteBound_positive
        · rw [Binary64.ofInt, Binary64.ofRatio_isFinite _ positive Nat.one_pos, Nat.cast_one,
            div_one]
      rw [toBinary?, IsHuge, ← not_lt, ← fits]
      split
      case isTrue finite => exact iff_of_false (fun same => by cases same) (not_not_intro finite)
      case isFalse unfit => exact iff_of_true rfl unfit

theorem combine?_isSome {onWhole : Int → Int → Int} {onBinary : Binary64 → Binary64 → Binary64}
    {left right : Number} (leftFits : left.toBinary?.isSome) (rightFits : right.toBinary?.isSome) :
    (combine? onWhole onBinary left right).isSome := by
  obtain ⟨first, one⟩ := Option.isSome_iff_exists.mp leftFits
  obtain ⟨second, other⟩ := Option.isSome_iff_exists.mp rightFits
  unfold combine?
  split
  · rfl
  · rw [one, other]
    rfl

/-- Dividing two whole numbers overflows only if the dividend is too large. -/
theorem div?_isSome {left right : Number} (leftFits : left.toBinary?.isSome)
    (rightFits : right.toBinary?.isSome) (nonzero : right.isZero = false) :
    (left.div? right).isSome := by
  unfold div?
  split
  case h_1 dividend divisor =>
    split
    · rfl
    · have whole : (Binary64.ofInt dividend).isFinite = true := by
        by_contra unfit
        rw [toBinary?, if_neg unfit] at leftFits
        exact Bool.false_ne_true leftFits
      have positive : 0 < divisor.natAbs := Int.natAbs_pos.mpr (ne_of_beq_false nonzero)
      dsimp only
      rw [if_pos (Binary64.ofRatio_isFinite_of_whole positive whole)]
      rfl
  case h_2 =>
    obtain ⟨first, one⟩ := Option.isSome_iff_exists.mp leftFits
    obtain ⟨second, other⟩ := Option.isSome_iff_exists.mp rightFits
    rw [one, other]
    rfl

end Number

/-- Arithmetic overflows only where an operand is too large for floating point. -/
theorem Value.numeric_overflow {operator : Arithmetic} {left right : Number}
    (overflows : Value.numeric operator left right = .error .overflow) :
    left.IsHuge ∨ right.IsHuge := by
  by_contra fit
  rw [← Number.toBinary?_eq_none, ← Number.toBinary?_eq_none] at fit
  obtain ⟨leftFits, rightFits⟩ := not_or.mp fit
  rw [← ne_eq, Option.ne_none_iff_isSome] at leftFits rightFits
  have fails : ∀ {result : Option Number}, result.isSome → ofNumber? result ≠ .error .overflow := by
    intro result isSome
    cases result with
    | none => exact absurd isSome Bool.false_ne_true
    | some _ => exact nofun
  cases operator with
  | add => exact fails (Number.combine?_isSome leftFits rightFits) overflows
  | sub => exact fails (Number.combine?_isSome leftFits rightFits) overflows
  | mul => exact fails (Number.combine?_isSome leftFits rightFits) overflows
  | div =>
      simp only [numeric] at overflows
      split at overflows
      · cases overflows
      · rename_i nonzero
        exact fails (Number.div?_isSome leftFits rightFits (Bool.eq_false_iff.mpr nonzero)) overflows
  | mod =>
      simp only [numeric] at overflows
      split at overflows
      · cases overflows
      · exact fails (Number.combine?_isSome leftFits rightFits) overflows

/-- Only numbers overflow. -/
theorem Value.arithmetic_overflow {operator : Arithmetic} {left right : Value}
    (overflows : Value.arithmetic operator left right = .error .overflow) :
    ∃ first second, left = .number first ∧ right = .number second ∧
      Value.numeric operator first second = .error .overflow ∧ (first.IsHuge ∨ second.IsHuge) := by
  unfold arithmetic at overflows
  split at overflows
  case h_1 first second => exact ⟨first, second, rfl, rfl, overflows, numeric_overflow overflows⟩
  all_goals cases overflows

end Templating
