import Mathlib.Algebra.Group.Nat.Defs
import Mathlib.Data.List.TakeWhile
import Templating.Grammar.Expression
import Templating.Proofs.Lexer.Progress
import Templating.Proofs.Text.Ascii

/-!
Numerals read back: the digits of a whole number name it again, as long as there are not too many
of them to be read at all.
-/

namespace Templating.Numeral

open Lexer Grammar

theorem plainDigit_ascii {c : Char} (ascii : c.toNat < 128) : plainDigit c = c := by
  unfold plainDigit Text.digitValue?
  by_cases digit : c.isDigit
  · have code := Text.isDigit_code digit
    have moved : 48 + (c.toNat - 48) = c.toNat := by omega
    simp [digit, moved]
  · simp [digit, ascii]

theorem ungroup_plain {text : List Char} (plain : '_' ∉ text) (afterDigit : Bool) :
    ungroup afterDigit text = some text := by
  induction text generalizing afterDigit with
  | nil => rfl
  | cons c rest ih =>
      have different : c ≠ '_' := fun same => plain (same ▸ List.mem_cons_self)
      have noneInRest : '_' ∉ rest := fun member => plain (List.mem_cons_of_mem c member)
      rw [ungroup, ih noneInRest]
      · rfl
      · exact different

theorem trim_visible {text : List Char} (visible : ∀ c ∈ text, Text.isBlank c = false) :
    Text.trimEnd (Text.trimStart text) = text := by
  have dropNone : ∀ {part : List Char}, (∀ c ∈ part, Text.isBlank c = false) →
      part.dropWhile Text.isBlank = part := by
    intro part seen
    cases part with
    | nil => rfl
    | cons c rest => simp [seen c (by simp)]
  have reversed : ∀ c ∈ text.reverse, Text.isBlank c = false := by simpa using visible
  rw [Text.trimEnd, Text.trimStart, dropNone visible, dropNone reversed, List.reverse_reverse]

/-- A numeral without white space, underscores and digits of other scripts is taken as it is. -/
theorem prepared?_ascii {text : List Char}
    (plain : ∀ c ∈ text, 33 ≤ c.toNat ∧ c.toNat < 127 ∧ c ≠ '_') :
    prepared? (String.ofList text) = some text := by
  have visible : ∀ c ∈ text, Text.isBlank c = false := by
    intro c member
    obtain ⟨low, high, _⟩ := plain c member
    exact Text.visible_of_code low (by omega)
  have same : text.map plainDigit = text := by
    have ascii : text.map plainDigit = text.map id :=
      List.map_congr_left fun c member => plainDigit_ascii (by
        obtain ⟨_, high, _⟩ := plain c member
        omega)
    rw [ascii, List.map_id]
  have noUnderscore : '_' ∉ text := fun member => (plain '_' member).2.2 rfl
  rw [prepared?, Text.trim, String.toList_ofList, String.toList_ofList, trim_visible visible, same,
    ungroup_plain noUnderscore]

theorem plain_of_isDigit {c : Char} (digit : c.isDigit) :
    33 ≤ c.toNat ∧ c.toNat < 127 ∧ c ≠ '_' := by
  have code := Text.isDigit_code digit
  refine ⟨by omega, by omega, ?_⟩
  rintro rfl
  cases digit

theorem splitSign_digits {text : List Char} (digits : ∀ c ∈ text, c.isDigit) :
    splitSign text = (false, text) := by
  cases text with
  | nil => rfl
  | cons c rest =>
      have digit := digits c List.mem_cons_self
      unfold splitSign
      split
      case h_1 same =>
        cases same
        cases digit
      case h_2 same =>
        cases same
        cases digit
      case h_3 => rfl

theorem valueOf_eq (digits : List Char) : valueOf digits = Nat.ofDigitChars 10 digits 0 := by
  rw [valueOf, Nat.ofDigitChars_eq_foldl]
  rfl

theorem isDigit_of_mem_toDigits {value : Nat} {c : Char} (member : c ∈ Nat.toDigits 10 value) :
    c.isDigit :=
  Nat.isDigit_of_mem_toDigits (by decide) (by decide) member

/-- The digits of a whole number that is not too long read back. -/
theorem whole?_toDigits {value : Nat} (short : value < 10 ^ greatestWholeLength) :
    whole? (String.ofList (Nat.toDigits 10 value)) = some (value : Int) := by
  have digits : ∀ c ∈ Nat.toDigits 10 value, c.isDigit := fun c => isDigit_of_mem_toDigits
  have nonempty : Nat.toDigits 10 value ≠ [] := Nat.toDigits_ne_nil
  have length : (Nat.toDigits 10 value).length ≤ greatestWholeLength :=
    (Nat.length_toDigits_le_iff (by decide) (by decide)).mpr short
  have all : allDigits (Nat.toDigits 10 value) = true := by
    simpa [allDigits, nonempty] using digits
  have ascii := prepared?_ascii fun c member => plain_of_isDigit (digits c member)
  rw [whole?, ascii, Option.bind_some, splitSign_digits digits]
  simp [all, length, valueOf_eq]

/-- A whole number without a sign is written with digits only. -/
theorem exists_toDigits {value : Int} (natural : 0 ≤ value) :
    ∃ size : Nat, value = size ∧ toString value = String.ofList (Nat.toDigits 10 size) := by
  obtain ⟨size, rfl⟩ := Int.eq_ofNat_of_zero_le natural
  exact ⟨size, rfl, rfl⟩

theorem numeral?_toDigits {value : Nat} (short : value < 10 ^ greatestWholeLength) :
    numeral? (String.ofList (Nat.toDigits 10 value)) = some (.int value) := by
  have noPoint : ((Nat.toDigits 10 value).any fun c => c == '.' || c == 'e' || c == 'E') =
      false := by
    apply List.any_eq_false.mpr
    intro c member
    have digit := isDigit_of_mem_toDigits member
    simp only [Bool.or_eq_true, beq_iff_eq]
    rintro ((rfl | rfl) | rfl) <;> cases digit
  rw [numeral?, String.toList_ofList, noPoint, whole?_toDigits short]
  rfl

end Templating.Numeral

namespace Templating.Lexer

/-- Nothing that could go on with a number comes next. -/
def EndsNumber (rest : List Char) : Prop :=
  ∀ c ∈ rest.head?, Text.isDecimal c = false ∧ c ∉ ['.', 'e', 'E', '+', '-']

theorem takeWhile_append_stop {accepts : Char → Bool} (text : List Char) {rest : List Char}
    (stops : ∀ c ∈ rest.head?, accepts c = false) :
    (text ++ rest).takeWhile accepts = text.takeWhile accepts ∧
      (text ++ rest).dropWhile accepts = text.dropWhile accepts ++ rest := by
  induction text with
  | nil =>
      cases rest with
      | nil => exact ⟨rfl, rfl⟩
      | cons c rest => simp [stops c (by simp)]
  | cons c text ih =>
      cases accepted : accepts c with
      | false => simp [accepted]
      | true => simpa [accepted] using ih

theorem fractionLexeme_append (text : List Char) {rest : List Char} (ends : EndsNumber rest) :
    fractionLexeme (text ++ rest) = fractionLexeme text := by
  have stops := fun c member => (ends c member).1
  cases text with
  | nil =>
      cases rest with
      | nil => rfl
      | cons c rest =>
          have plain := (ends c (by simp)).2
          unfold fractionLexeme
          split
          case h_1 same =>
            cases same
            simp at plain
          case h_2 => rfl
  | cons c text =>
      by_cases point : c = '.'
      · subst point
        simp [fractionLexeme, (takeWhile_append_stop text stops).1]
      · simp [fractionLexeme, point]

theorem exponentLexeme_append (text : List Char) {rest : List Char} (ends : EndsNumber rest) :
    exponentLexeme (text ++ rest) = exponentLexeme text := by
  have stops := fun c member => (ends c member).1
  cases text with
  | nil =>
      cases rest with
      | nil => rfl
      | cons c rest =>
          have plain := (ends c (by simp)).2
          simp only [List.mem_cons, not_or] at plain
          simp [exponentLexeme, plain]
  | cons e text =>
      cases text with
      | nil =>
          cases rest with
          | nil => rfl
          | cons c rest =>
              have plain := (ends c (by simp)).2
              simp only [List.mem_cons, not_or] at plain
              simp [exponentLexeme, plain, stops c (by simp)]
      | cons c text =>
          have digits := (takeWhile_append_stop text stops).1
          have all := (takeWhile_append_stop (c :: text) stops).1
          have sameHead : (c :: (text ++ rest)).head? = (c :: text).head? := rfl
          simp only [exponentLexeme, List.cons_append]
          rw [sameHead]
          obtain none | one : (if (c :: text).head? == some '+' || (c :: text).head? == some '-'
              then 1 else 0) = 0 ∨ (if (c :: text).head? == some '+' ||
                (c :: text).head? == some '-' then 1 else 0) = 1 := by
            split
            · exact .inr rfl
            · exact .inl rfl
          · rw [none]
            simp only [List.take_zero, List.length_nil, List.drop_zero]
            rw [← List.cons_append, all]
          · rw [one]
            simp only [List.take_succ_cons, List.take_zero, List.length_singleton,
              List.drop_succ_cons, List.drop_zero, digits]

/-- What a number is does not depend on a text that cannot go on with it. -/
theorem numberLexeme_append (text : List Char) {rest : List Char} (ends : EndsNumber rest) :
    numberLexeme (text ++ rest) = numberLexeme text := by
  have stops := fun c member => (ends c member).1
  obtain ⟨whole, others⟩ := takeWhile_append_stop text stops
  have dropped : (text.dropWhile Text.isDecimal ++ rest).drop
        (fractionLexeme (text.dropWhile Text.isDecimal)).length =
      (text.dropWhile Text.isDecimal).drop
        (fractionLexeme (text.dropWhile Text.isDecimal)).length ++ rest :=
    List.drop_append_of_le_length (fractionLexeme_isPrefix _).length_le
  simp only [numberLexeme, whole, others, fractionLexeme_append _ ends, dropped,
    exponentLexeme_append _ ends]

/-- Digits alone are a number. -/
theorem numberLexeme_digits {text : List Char} (digits : ∀ c ∈ text, c.isDigit) :
    numberLexeme text = text := by
  have decimals : ∀ c ∈ text, Text.isDecimal c := fun c member =>
    Text.isDecimal_of_isDigit (digits c member)
  have whole : text.takeWhile Text.isDecimal = text := List.takeWhile_eq_self_iff.mpr decimals
  have others : text.dropWhile Text.isDecimal = [] := List.dropWhile_eq_nil_iff.mpr decimals
  cases text with
  | nil => rfl
  | cons c rest => simp [numberLexeme, whole, others, fractionLexeme, exponentLexeme]

end Templating.Lexer
