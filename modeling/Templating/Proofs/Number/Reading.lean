import Mathlib.Data.List.Induction
import Mathlib.Tactic.IntervalCases
import Templating.Proofs.Canonical.Lexemes

/-!
What a numeral can name. It starts with a digit of some script, so it has no sign: a whole number is
not negative, and a floating value is read from digits and a power of ten.
-/

namespace Templating.Text

theorem digitValue?_lt {c : Char} {value : Nat} (digit : digitValue? c = some value) :
    value < 10 := by
  unfold digitValue? at digit
  split at digit
  case isTrue plain =>
    have code := isDigit_code plain
    have same := Option.some.inj digit
    omega
  case isFalse =>
    split at digit
    · cases digit
    · obtain ⟨first, found, same⟩ := Option.map_eq_some_iff.mp digit
      have range := List.find?_some found
      simp only [Bool.and_eq_true, decide_eq_true_eq] at range
      omega

theorem zeroCodes_visible : ∀ first ∈ zeroCodes, ∀ value < 10,
    isBlank (Char.ofNat (first + value)) = false := by
  decide +kernel

/-- No digit of any script is white space. -/
theorem visible_of_isDecimal {c : Char} (decimal : isDecimal c) : isBlank c = false := by
  obtain ⟨value, digit⟩ := Option.isSome_iff_exists.mp decimal
  unfold digitValue? at digit
  split at digit
  case isTrue plain =>
    have code := isDigit_code plain
    exact visible_of_code (by omega) (by omega)
  case isFalse =>
    split at digit
    · cases digit
    · obtain ⟨first, found, same⟩ := Option.map_eq_some_iff.mp digit
      have range := List.find?_some found
      simp only [Bool.and_eq_true, decide_eq_true_eq] at range
      have visible := zeroCodes_visible first (List.mem_of_find?_eq_some found)
        (c.toNat - first) (by omega)
      have code : first + (c.toNat - first) = c.toNat := by omega
      rwa [code, Char.ofNat_toNat] at visible

end Templating.Text

namespace Templating.Numeral

open Lexer Grammar

theorem isDigit_plainDigit {c : Char} (decimal : Text.isDecimal c) : (plainDigit c).isDigit := by
  obtain ⟨value, digit⟩ := Option.isSome_iff_exists.mp decimal
  have small := Text.digitValue?_lt digit
  rw [plainDigit, digit]
  interval_cases value <;> rfl

theorem trim_cons {c : Char} (rest : List Char) (visible : Text.isBlank c = false) :
    ∃ others, Text.trimEnd (Text.trimStart (c :: rest)) = c :: others := by
  rw [Text.trimStart, List.dropWhile_cons_of_neg (by simp [visible]), Text.trimEnd,
    List.reverse_cons, List.dropWhile_append]
  split
  · exact ⟨[], by simp [visible]⟩
  · exact ⟨_, by rw [List.reverse_append, List.reverse_singleton, List.singleton_append]⟩

/-- What is left of a numeral without underscores and white space still starts with a digit. -/
theorem prepared?_cons {text : String} {c : Char} {rest chars : List Char}
    (spelled : text.toList = c :: rest) (decimal : Text.isDecimal c)
    (prepared : prepared? text = some chars) : ∃ d others, chars = d :: others ∧ d.isDigit := by
  obtain ⟨others, trimmed⟩ := trim_cons rest (Text.visible_of_isDecimal decimal)
  have digit := isDigit_plainDigit decimal
  have different : plainDigit c ≠ '_' := (plain_of_isDigit digit).2.2
  rw [prepared?, Text.trim, String.toList_ofList, spelled, trimmed, List.map_cons,
    ungroup.eq_3 _ _ _ different] at prepared
  obtain ⟨left, _, same⟩ := Option.map_eq_some_iff.mp prepared
  exact ⟨plainDigit c, left, same.symm, digit⟩

theorem splitSign_digit {c : Char} {rest : List Char} (digit : c.isDigit) :
    splitSign (c :: rest) = (false, c :: rest) := by
  unfold splitSign
  split
  case h_1 same =>
    cases same
    cases digit
  case h_2 same =>
    cases same
    cases digit
  case h_3 => rfl

theorem valueOf_lt {digits : List Char} (all : ∀ c ∈ digits, c.isDigit) :
    valueOf digits < 10 ^ digits.length := by
  rw [valueOf_eq]
  induction digits using List.reverseRecOn with
  | nil => decide
  | append_singleton digits c ih =>
      have before := ih fun d member => all d (List.mem_append_left _ member)
      have code := Text.isDigit_code (all c (by simp))
      rw [Nat.ofDigitChars_append, List.length_append, List.length_singleton, Nat.pow_succ]
      simp only [Nat.ofDigitChars_cons, Nat.ofDigitChars_nil]
      have zero : '0'.toNat = 48 := rfl
      omega

/-- A whole number read from a numeral can be written so that it reads back. -/
theorem isWhole_of_whole? {text : String} {c : Char} {rest : List Char} {value : Int}
    (spelled : text.toList = c :: rest) (decimal : Text.isDecimal c)
    (read : whole? text = some value) : IsWhole value := by
  obtain ⟨chars, prepared, read⟩ := Option.bind_eq_some_iff.mp read
  obtain ⟨d, others, rfl, digit⟩ := prepared?_cons spelled decimal prepared
  rw [splitSign_digit digit] at read
  simp only [Bool.and_eq_true, decide_eq_true_eq, Bool.false_eq_true, if_false] at read
  split at read
  case isTrue whole =>
    cases read
    have all : ∀ c ∈ d :: others, c.isDigit := by
      have all := whole.1
      rw [allDigits, Bool.and_eq_true, List.all_eq_true] at all
      exact all.2
    refine ⟨Int.natCast_nonneg _, ?_⟩
    rw [Int.toNat_natCast]
    exact Nat.lt_of_lt_of_le (valueOf_lt all) (Nat.pow_le_pow_right (by decide) whole.2)
  case isFalse => cases read

/-- A text that starts with a digit is none of the words for values that are not finite. -/
theorem decimal?_digit {text : String} {c : Char} {rest : List Char} (digit : c.isDigit)
    (prepared : prepared? text = some (c :: rest)) :
    decimal? text = unsigned? false (c :: rest) := by
  have lower : c.toLower = c := by
    have code := Text.isDigit_code digit
    refine dif_neg ?_
    intro upper
    have low : 65 ≤ c.toNat := upper.1
    omega
  have noWord : ∀ letter, letter.isDigit = false → ∀ word,
      String.ofList (c :: rest.map Char.toLower) ≠ String.ofList (letter :: word) := by
    intro letter noDigit word same
    have first := congrArg String.toList same
    rw [String.toList_ofList, String.toList_ofList] at first
    cases first
    rw [digit] at noDigit
    cases noDigit
  rw [decimal?, prepared, Option.bind_some, splitSign_digit digit]
  simp only [List.map_cons, lower]
  split
  case h_1 same => exact absurd same (noWord 'i' rfl ['n', 'f'])
  case h_2 same => exact absurd same (noWord 'i' rfl ['n', 'f', 'i', 'n', 'i', 't', 'y'])
  case h_3 same => exact absurd same (noWord 'n' rfl ['a', 'n'])
  case h_4 => rfl

/-- A floating value read from a numeral is the value of a decimal without a sign. -/
theorem ofDecimal_of_decimal? {text : String} {c : Char} {rest : List Char} {value : Binary64}
    (spelled : text.toList = c :: rest) (decimal : Text.isDecimal c)
    (read : decimal? text = some value) :
    ∃ digits exponent, value = Binary64.ofDecimal false digits exponent := by
  obtain ⟨chars, prepared, _⟩ := Option.bind_eq_some_iff.mp read
  obtain ⟨d, others, rfl, digit⟩ := prepared?_cons spelled decimal prepared
  rw [decimal?_digit digit prepared] at read
  simp only [unsigned?] at read
  split at read <;> split at read
  · cases read
  · obtain ⟨exponent, _, same⟩ := Option.map_eq_some_iff.mp read
    exact ⟨_, _, same.symm⟩
  · cases read
  · obtain ⟨exponent, _, same⟩ := Option.map_eq_some_iff.mp read
    exact ⟨_, _, same.symm⟩

theorem numberLexeme_cons (text : List Char) (some : numberLexeme text ≠ []) :
    ∃ c rest, numberLexeme text = c :: rest ∧ Text.isDecimal c := by
  cases text with
  | nil => exact absurd rfl some
  | cons c rest =>
      cases decimal : Text.isDecimal c with
      | false => simp [numberLexeme, decimal] at some
      | true => simp [numberLexeme, decimal]

end Templating.Numeral
