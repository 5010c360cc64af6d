import Templating.Text.Character

/-!
Classes of characters by their code points, as far as ASCII goes.
-/

namespace Templating.Text

/-- A property of every character of a given text is checked one by one. -/
theorem forall_mem_of_all {holds : Char → Prop} [DecidablePred holds] {text : List Char}
    (all : text.all fun c => decide (holds c)) : ∀ c ∈ text, holds c := by
  simpa using all

theorem isNameStart_code {c : Char} (start : isNameStart c) :
    (65 ≤ c.toNat ∧ c.toNat ≤ 90) ∨ (97 ≤ c.toNat ∧ c.toNat ≤ 122) ∨ c.toNat = 95 := by
  have letter : c.isAlpha = (decide (65 ≤ c.val ∧ c.val ≤ 90) ||
      decide (97 ≤ c.val) && decide (c.val ≤ 122)) := rfl
  simp only [isNameStart, letter, Bool.or_eq_true, Bool.and_eq_true, decide_eq_true_eq] at start
  rcases start with (⟨low, high⟩ | ⟨low, high⟩) | rfl
  · exact .inl ⟨low, high⟩
  · exact .inr (.inl ⟨low, high⟩)
  · exact .inr (.inr rfl)

theorem isDigit_code {c : Char} (digit : c.isDigit) : 48 ≤ c.toNat ∧ c.toNat ≤ 57 := by
  have code : c.isDigit = (decide (48 ≤ c.val) && decide (c.val ≤ 57)) := rfl
  rwa [code, Bool.and_eq_true, decide_eq_true_eq, decide_eq_true_eq] at digit

theorem isNamePart_of_isNameStart {c : Char} (start : isNameStart c) : isNamePart c := by
  simp only [isNameStart, isNamePart, Char.isAlphanum, Bool.or_eq_true] at start ⊢
  rcases start with letter | underscore
  · exact .inl (.inl letter)
  · exact .inr underscore

theorem visible_of_code {c : Char} (low : 33 ≤ c.toNat) (high : c.toNat ≤ 126) :
    isBlank c = false := by
  simp [isBlank]
  omega

theorem isDecimal_of_isDigit {c : Char} (digit : c.isDigit) : isDecimal c := by
  simp [isDecimal, digitValue?, digit]

theorem isDecimal_of_code {c : Char} (plain : c.isDigit = false) (ascii : c.toNat < 128) :
    isDecimal c = false := by
  simp [isDecimal, digitValue?, plain, ascii]

theorem isDecimal_of_isNameStart {c : Char} (start : isNameStart c) : isDecimal c = false := by
  have code := isNameStart_code start
  have plain : c.isDigit = false := by
    cases digit : c.isDigit with
    | false => rfl
    | true =>
        have bounds := isDigit_code digit
        omega
  exact isDecimal_of_code plain (by omega)

end Templating.Text
