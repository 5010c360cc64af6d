import Templating.Proofs.Number.Overflow
import Templating.Proofs.Number.Reading
import Templating.Proofs.Number.Shortest

/-!
Which numerals are read as finite numbers: a decimal if its exact value is below the bound, a whole
number always, unless it is too long to be read at all.
-/

namespace Templating

namespace Binary64

theorem ten_zpow (exponent : Int) :
    (10 : ℚ) ^ exponent = (tenTo exponent : ℚ) / tenTo (-exponent) := by
  have parts : exponent = exponent.toNat - (-exponent).toNat := by omega
  conv_lhs => rw [parts]
  rw [zpow_sub₀ (by norm_num), zpow_natCast, zpow_natCast, tenTo_eq, tenTo_eq]
  push_cast
  rfl

theorem finiteBound_le_ten_zpow : finiteBound ≤ 10 ^ (310 : Int) := by
  have powers : 2 ^ 1024 ≤ 10 ^ 310 := by decide +kernel
  exact finiteBound_le_two_zpow.trans (by exact_mod_cast powers)

theorem one_le_finiteBound : 1 ≤ finiteBound :=
  (one_le_zpow₀ one_le_two (by decide)).trans two_zpow_le_finiteBound

/-- The number of digits of a positive number bounds it from both sides. -/
theorem decimalDigits_bounds {digits : Nat} (positive : 0 < digits) :
    ∃ places, (decimalDigits digits).length = places + 1 ∧ 10 ^ places ≤ digits ∧
      digits < 10 ^ (places + 1) := by
  have some : 0 < (decimalDigits digits).length := Nat.length_toDigits_pos
  obtain ⟨places, length⟩ := Nat.exists_eq_add_one_of_ne_zero some.ne'
  refine ⟨places, length, ?_, ?_⟩
  · cases places with
    | zero => exact positive
    | succ fewer =>
        by_contra small
        have short := length_decimalDigits_lt (not_le.mp small)
        omega
  · exact (Nat.length_toDigits_le_iff (by decide) (Nat.succ_pos places)).mp length.le

theorem decimal_bounds {digits : Nat} (positive : 0 < digits) (exponent : Int) :
    (10 : ℚ) ^ (exponent + (decimalDigits digits).length - 1) ≤ digits * 10 ^ exponent ∧
      (digits : ℚ) * 10 ^ exponent < 10 ^ (exponent + (decimalDigits digits).length) := by
  obtain ⟨places, length, least, greatest⟩ := decimalDigits_bounds positive
  have ten : (10 : ℚ) ≠ 0 := by norm_num
  have unit : (0 : ℚ) < 10 ^ exponent := by positivity
  have scaled (count : Nat) : (10 : ℚ) ^ (exponent + count) = (10 ^ count : Nat) * 10 ^ exponent := by
    rw [zpow_add₀ ten, zpow_natCast, mul_comm, Nat.cast_pow, Nat.cast_ofNat]
  rw [length, Nat.cast_succ, ← add_assoc, add_sub_cancel_right, add_assoc, ← Nat.cast_succ, scaled,
    scaled, mul_le_mul_iff_left₀ unit, mul_lt_mul_iff_left₀ unit, Nat.cast_le, Nat.cast_lt]
  exact ⟨least, greatest⟩

/-- A decimal is read as a finite value if it is nearer to one than to the next power of two. -/
theorem ofDecimal_isFinite (negative : Bool) (digits : Nat) (exponent : Int) :
    (ofDecimal negative digits exponent).isFinite = true ↔
      (digits : ℚ) * 10 ^ exponent < finiteBound := by
  rcases Nat.eq_zero_or_pos digits with rfl | positive
  · simp [ofDecimal_zero, zero, isFinite, finiteBound_positive]
  · obtain ⟨least, greatest⟩ := decimal_bounds positive exponent
    simp only [ofDecimal, positive.ne', if_false]
    generalize exponent + (decimalDigits digits).length = top at least greatest
    split
    case isTrue high =>
      refine iff_of_false Bool.false_ne_true (not_lt.mpr ?_)
      calc finiteBound ≤ 10 ^ (310 : Int) := finiteBound_le_ten_zpow
        _ ≤ 10 ^ (top - 1) := zpow_le_zpow_right₀ (by norm_num) (by omega)
        _ ≤ digits * 10 ^ exponent := least
    case isFalse =>
      split
      case isTrue low =>
        refine iff_of_true rfl ?_
        calc (digits : ℚ) * 10 ^ exponent < 10 ^ top := greatest
          _ ≤ 10 ^ (0 : Int) := zpow_le_zpow_right₀ (by norm_num) (by omega)
          _ ≤ finiteBound := by simpa using one_le_finiteBound
      case isFalse =>
        have num : 0 < digits * tenTo exponent := Nat.mul_pos positive (Nat.pow_pos (by decide))
        have den : 0 < tenTo (-exponent) := Nat.pow_pos (by decide)
        rw [ofRatio_isFinite negative num den, ten_zpow, Nat.cast_mul, mul_div_assoc]

theorem ofRatio_infinite (negative : Bool) (num den : Nat) :
    (ofRatio negative num den).isFinite = true ∨ ofRatio negative num den = infinite negative := by
  simp only [ofRatio]
  split
  · exact .inl rfl
  · split <;> split
    · exact .inl rfl
    · exact .inr rfl
    · exact .inl rfl
    · exact .inr rfl

/-- A decimal that is not read as a finite value is read as an infinite one. -/
theorem ofDecimal_infinite {negative : Bool} {digits : Nat} {exponent : Int}
    (huge : finiteBound ≤ (digits : ℚ) * 10 ^ exponent) :
    ofDecimal negative digits exponent = infinite negative := by
  have range : (ofDecimal negative digits exponent).isFinite = true ∨
      ofDecimal negative digits exponent = infinite negative := by
    simp only [ofDecimal]
    split
    · exact .inl rfl
    · split
      · exact .inr rfl
      · split
        · exact .inl rfl
        · exact ofRatio_infinite _ _ _
  exact range.resolve_left fun finite =>
    not_lt.mpr huge ((ofDecimal_isFinite negative digits exponent).mp finite)

end Binary64

namespace Numeral

/-- The digits of a decimal without a sign, and the power of ten that the last one is counted in. -/
def parts? (chars : List Char) : Option (Nat × Int) :=
  let whole := chars.takeWhile Char.isDigit
  let afterWhole := chars.dropWhile Char.isDigit
  let (fraction, rest) := match afterWhole with
    | '.' :: rest => (rest.takeWhile Char.isDigit, rest.dropWhile Char.isDigit)
    | rest => ([], rest)
  if whole.isEmpty && fraction.isEmpty then none
  else (exponent? rest).map fun exponent => (valueOf (whole ++ fraction), exponent - fraction.length)

theorem unsigned?_eq (negative : Bool) (chars : List Char) :
    unsigned? negative chars =
      (parts? chars).map fun parts => Binary64.ofDecimal negative parts.1 parts.2 := by
  simp only [unsigned?, parts?, apply_ite (Option.map _), Option.map_none, Option.map_map]
  rfl

/-- The exact value of a decimal without a sign. -/
def ratio? (text : String) : Option ℚ :=
  ((prepared? text).bind parts?).map fun parts => parts.1 * 10 ^ parts.2

/-- A decimal is read as a finite value up to the bound, and as an infinite one from there on. -/
theorem decimal?_range {text : String} {c : Char} {rest : List Char} {value : Binary64}
    (spelled : text.toList = c :: rest) (decimal : Text.isDecimal c)
    (read : decimal? text = some value) :
    ∃ ratio, ratio? text = some ratio ∧ (ratio < Binary64.finiteBound ∧ value.isFinite = true ∨
      Binary64.finiteBound ≤ ratio ∧ value = .infinite false) := by
  obtain ⟨chars, prepared, _⟩ := Option.bind_eq_some_iff.mp read
  obtain ⟨d, others, rfl, digit⟩ := prepared?_cons spelled decimal prepared
  rw [decimal?_digit digit prepared, unsigned?_eq] at read
  obtain ⟨parts, found, rfl⟩ := Option.map_eq_some_iff.mp read
  have spells : ratio? text = some ((parts.1 : ℚ) * 10 ^ parts.2) := by
    rw [ratio?, prepared, Option.bind_some, found, Option.map_some]
  refine ⟨_, spells, ?_⟩
  rcases lt_or_ge ((parts.1 : ℚ) * 10 ^ parts.2) Binary64.finiteBound with small | huge
  · exact .inl ⟨small, (Binary64.ofDecimal_isFinite false parts.1 parts.2).mpr small⟩
  · exact .inr ⟨huge, Binary64.ofDecimal_infinite huge⟩

/-- Longer whole numbers are not read. -/
theorem numeral?_long {text : String} (digits : ∀ c ∈ text.toList, Text.isDecimal c)
    (long : greatestWholeLength < text.length) : Grammar.numeral? text = none := by
  have noPoint : (text.toList.any fun c => c == '.' || c == 'e' || c == 'E') = false := by
    apply List.any_eq_false.mpr
    intro c member
    have digit := digits c member
    simp only [Bool.or_eq_true, beq_iff_eq]
    rintro ((rfl | rfl) | rfl) <;> cases digit
  have plain : ∀ c ∈ text.toList.map plainDigit, c.isDigit :=
    List.forall_mem_map.mpr fun c member => isDigit_plainDigit (digits c member)
  have prepared : prepared? text = some (text.toList.map plainDigit) := by
    rw [prepared?, Text.trim, String.toList_ofList,
      trim_visible fun c member => Text.visible_of_isDecimal (digits c member), ungroup_plain]
    exact fun member => (plain_of_isDigit (plain '_' member)).2.2 rfl
  rw [Grammar.numeral?, noPoint, whole?, prepared, Option.bind_some, splitSign_digits plain]
  simp [String.length_toList, long]

end Numeral

end Templating
