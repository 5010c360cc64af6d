import Templating.Number.Decimal
import Templating.Proofs.Number.Rounding

/-!
A decimal names the same value however many of its zeros are counted as digits, and the shortest
decimal of a binary value names that value.
-/

namespace Templating.Binary64

theorem decimalDigits_zeros {value : Nat} (positive : 0 < value) (zeros : Nat) :
    decimalDigits (value * 10 ^ zeros) = decimalDigits value ++ List.replicate zeros '0' := by
  induction zeros with
  | zero => rw [Nat.pow_zero, Nat.mul_one, List.replicate_zero, List.append_nil]
  | succ zeros ih =>
      have more : 0 < value * 10 ^ zeros := Nat.mul_pos positive (Nat.pow_pos (by decide))
      have tenfold : value * 10 ^ (zeros + 1) = 10 * (value * 10 ^ zeros) + 0 := by ring
      rw [decimalDigits, tenfold, ← Nat.toDigits_append_toDigits (by decide) more (by decide),
        Nat.toDigits_zero, ← decimalDigits, ih, List.append_assoc, ← List.replicate_succ']

theorem length_decimalDigits_lt {value places : Nat} (small : value < 10 ^ (places + 1)) :
    (decimalDigits value).length ≤ places + 1 :=
  (Nat.length_toDigits_le_iff (by decide) (Nat.succ_pos places)).mpr small

theorem lt_length_decimalDigits {value places : Nat} (great : 10 ^ places ≤ value) :
    places < (decimalDigits value).length := by
  rcases Nat.eq_zero_or_pos places with rfl | positive
  · exact Nat.length_toDigits_pos
  · rw [← Nat.not_le, decimalDigits, Nat.length_toDigits_le_iff (by decide) positive, Nat.not_lt]
    exact great

/-- Zeros at the end of the digits count as well in the exponent. -/
theorem ofDecimal_zeros (negative : Bool) {digits : Nat} (positive : 0 < digits) (zeros : Nat)
    (exponent : Int) :
    ofDecimal negative (digits * 10 ^ zeros) exponent =
      ofDecimal negative digits (exponent + zeros) := by
  have more : 0 < digits * 10 ^ zeros := Nat.mul_pos positive (Nat.pow_pos (by decide))
  have top : exponent + (decimalDigits (digits * 10 ^ zeros)).length =
      exponent + zeros + (decimalDigits digits).length := by
    rw [decimalDigits_zeros positive, List.length_append, List.length_replicate]
    push_cast
    ring
  have places : zeros + exponent.toNat + (-(exponent + zeros)).toNat =
      (exponent + zeros).toNat + (-exponent).toNat := by
    omega
  have same : ofRatio negative (digits * 10 ^ zeros * 10 ^ exponent.toNat) (10 ^ (-exponent).toNat) =
      ofRatio negative (digits * 10 ^ (exponent + zeros).toNat)
        (10 ^ (-(exponent + zeros)).toNat) := by
    apply ofRatio_congr _ _ (Nat.pow_pos (by decide)) (Nat.pow_pos (by decide))
    rw [Nat.mul_assoc, Nat.mul_assoc, ← Nat.pow_add, ← Nat.pow_add, Nat.mul_assoc, ← Nat.pow_add,
      ← Nat.add_assoc, places]
  simp only [ofDecimal, top, tenTo_eq, same, more.ne', positive.ne', if_false]

theorem ofDecimal_zero (negative : Bool) (exponent : Int) :
    ofDecimal negative 0 exponent = zero negative := by
  simp [ofDecimal]

/-- Every finite value of a decimal is canonical. -/
theorem ofDecimal_canonical {negative sign : Bool} {digits significand : Nat}
    {exponent place : Int}
    (reads : ofDecimal negative digits exponent = finite sign significand place) :
    sign = negative ∧ IsCanonical significand place := by
  have zeroCanonical : IsCanonical 0 leastExponent := ⟨by decide, le_rfl, by decide, .inr rfl⟩
  simp only [ofDecimal] at reads
  split at reads
  · cases reads
    exact ⟨rfl, zeroCanonical⟩
  · split at reads
    · cases reads
    · split at reads
      · cases reads
        exact ⟨rfl, zeroCanonical⟩
      · refine ⟨?_, ofRatio_canonical (Nat.pow_pos (by decide)) reads⟩
        simp only [ofRatio] at reads
        split at reads
        · cases reads
          rfl
        · split at reads <;> split at reads <;> cases reads <;> rfl

theorem significand_lt {significand : Nat} (short : significand < 2 ^ precision) (places : Nat)
    (many : 16 ≤ places) : significand < 10 ^ places := by
  have few : significand < 10 ^ 16 := short.trans (by decide)
  exact few.trans_le (Nat.pow_le_pow_right (by decide) many)

theorem exact_lt {significand : Nat} {exponent : Int} (canonical : IsCanonical significand exponent) :
    significand * 2 ^ exponent.toNat * 5 ^ (-exponent).toNat <
      10 ^ (309 + (-exponent).toNat + 1) := by
  obtain ⟨short, least, greatest, _⟩ := canonical
  have split : 10 ^ (309 + (-exponent).toNat + 1) = 10 ^ 310 * 10 ^ (-exponent).toNat := by
    rw [← Nat.pow_add]
    congr 1
    omega
  have fives : 5 ^ (-exponent).toNat ≤ 10 ^ (-exponent).toNat :=
    Nat.pow_le_pow_left (by decide) _
  have whole : significand * 2 ^ exponent.toNat < 10 ^ 310 := by
    rcases le_total exponent 0 with small | large
    · rw [Int.toNat_of_nonpos small, Nat.pow_zero, Nat.mul_one]
      exact significand_lt short 310 (by decide)
    · calc significand * 2 ^ exponent.toNat < 2 ^ precision * 2 ^ exponent.toNat :=
            Nat.mul_lt_mul_of_pos_right short (Nat.pow_pos (by decide))
        _ ≤ 2 ^ precision * 2 ^ 971 := by
            apply Nat.mul_le_mul_left
            apply Nat.pow_le_pow_right (by decide)
            rw [greatestExponent] at greatest
            omega
        _ < 10 ^ 310 := by decide +kernel
  rw [split]
  exact Nat.mul_lt_mul_of_lt_of_le whole fives (Nat.pow_pos (by decide))

theorem le_exact {significand : Nat} {exponent : Int} (canonical : IsCanonical significand exponent)
    (nonzero : significand ≠ 0) :
    10 ^ ((-exponent).toNat - 331) ≤ significand * 2 ^ exponent.toNat * 5 ^ (-exponent).toNat := by
  obtain ⟨_, least, _, _⟩ := canonical
  have most : (-exponent).toNat ≤ 1074 := by
    rw [leastExponent] at least
    omega
  generalize (-exponent).toNat = places at most
  have fives : 10 ^ (places - 331) ≤ 5 ^ places := by
    rcases Nat.lt_or_ge places 331 with few | many
    · rw [Nat.sub_eq_zero_of_le few.le]
      exact Nat.pow_pos (by decide)
    · apply Nat.le_of_mul_le_mul_right _ (Nat.pow_pos (by decide) : 0 < 2 ^ places)
      have twos : 2 ^ places ≤ 10 ^ 331 :=
        (Nat.pow_le_pow_right (by decide) most).trans (by decide +kernel)
      calc 10 ^ (places - 331) * 2 ^ places ≤ 10 ^ (places - 331) * 10 ^ 331 :=
            Nat.mul_le_mul_left _ twos
        _ = 10 ^ places := by rw [← Nat.pow_add, Nat.sub_add_cancel many]
        _ = 5 ^ places * 2 ^ places := by rw [← Nat.mul_pow]
  have some : 0 < significand * 2 ^ exponent.toNat :=
    Nat.mul_pos (Nat.pos_of_ne_zero nonzero) (Nat.pow_pos (by decide))
  exact fives.trans (Nat.le_mul_of_pos_left _ some)

/-- All digits of a binary value name it. -/
theorem ofDecimal_exact {significand : Nat} {exponent : Int}
    (canonical : IsCanonical significand exponent) (nonzero : significand ≠ 0) :
    ofDecimal false (significand * 2 ^ exponent.toNat * 5 ^ (-exponent).toNat) (min exponent 0) =
      finite false significand exponent := by
  have most := length_decimalDigits_lt (exact_lt canonical)
  have least := lt_length_decimalDigits (le_exact canonical nonzero)
  have positive : significand * 2 ^ exponent.toNat * 5 ^ (-exponent).toNat ≠ 0 :=
    Nat.mul_ne_zero (Nat.mul_ne_zero nonzero (Nat.pow_pos (by decide)).ne')
      (Nat.pow_pos (by decide)).ne'
  have noTens : (min exponent 0).toNat = 0 := by omega
  have tenths : (-min exponent 0).toNat = (-exponent).toNat := by omega
  have high : ¬ 310 < min exponent 0 +
      (decimalDigits (significand * 2 ^ exponent.toNat * 5 ^ (-exponent).toNat)).length := by
    omega
  have low : ¬ min exponent 0 +
      (decimalDigits (significand * 2 ^ exponent.toNat * 5 ^ (-exponent).toNat)).length < -330 := by
    omega
  have tens : 5 ^ (-exponent).toNat * 2 ^ (-exponent).toNat = 10 ^ (-exponent).toNat := by
    rw [← Nat.mul_pow]
  simp only [ofDecimal, tenTo_eq, positive, high, low, if_false, noTens, tenths, Nat.pow_zero,
    Nat.mul_one]
  rw [← ofRatio_exact false canonical nonzero, twoTo_eq, twoTo_eq]
  apply ofRatio_congr _ _ (Nat.pow_pos (by decide)) (Nat.pow_pos (by decide))
  rw [Nat.mul_assoc _ (5 ^ (-exponent).toNat), tens]

theorem ofDecimal_onGrid {value : Binary64} {num den : Nat} {unit : Int} {decimal : Nat × Int}
    (found : onGrid? value num den unit = some decimal) :
    ofDecimal false decimal.1 decimal.2 = value := by
  simp only [onGrid?] at found
  generalize (if roundDiv _ _ = _ then _ else _ : Nat) = other at found
  split at found
  case isTrue reads =>
    cases found
    exact reads
  case isFalse =>
    split at found <;> cases found
    case isTrue.refl reads => exact reads

/-- The shortest decimal of a value reads back as the value. -/
theorem ofDecimal_shortest {significand : Nat} {exponent : Int}
    (canonical : IsCanonical significand exponent) (nonzero : significand ≠ 0) :
    ofDecimal false (shortest significand exponent).1 (shortest significand exponent).2 =
      finite false significand exponent := by
  simp only [shortest, twoTo_eq, Nat.pow_eq]
  cases found : (List.range 17).findSome? fun (places : Nat) =>
      onGrid? (finite false significand exponent) (significand * 2 ^ exponent.toNat)
        (2 ^ (-exponent).toNat) (leadingPlace (significand * 2 ^ exponent.toNat)
          (2 ^ (-exponent).toNat) - places) with
  | none => exact ofDecimal_exact canonical nonzero
  | some decimal =>
      obtain ⟨places, _, onGrid⟩ := List.exists_of_findSome?_eq_some found
      exact ofDecimal_onGrid onGrid

end Templating.Binary64
