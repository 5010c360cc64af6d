import Templating.Proofs.Number.Reading
import Templating.Proofs.Number.Shortest

/-!
The text of a floating value that came from a numeral is a numeral of that value: digits, a fraction
or an exponent or both, and no sign.
-/

namespace Templating.Numeral

open Lexer Grammar
open Binary64 (decimalDigits exponentText magnitudeText)

/-- A point and digits behind it, if there are any. -/
def pointed (fraction : List Char) : List Char :=
  if fraction.isEmpty then [] else '.' :: fraction

/-- Digits, a fraction and what spells an exponent, at least one of the last two. -/
structure IsDecimal (whole fraction tail : List Char) (exponent : Int) : Prop where
  nonempty : whole ≠ []
  wholeDigits : ∀ c ∈ whole, c.isDigit
  fractionDigits : ∀ c ∈ fraction, c.isDigit
  tailSpells : tail = [] ∧ exponent = 0 ∨ tail = 'e' :: exponentText exponent
  marked : fraction ≠ [] ∨ tail ≠ []

theorem valueOf_append_zeros (digits : List Char) (zeros : Nat) :
    valueOf (digits ++ List.replicate zeros '0') = valueOf digits * 10 ^ zeros := by
  rw [valueOf_eq, Nat.ofDigitChars_append, Nat.ofDigitChars_replicate_zero, valueOf_eq,
    Nat.mul_comm]

theorem valueOf_zeros_append (zeros : Nat) (digits : List Char) :
    valueOf (List.replicate zeros '0' ++ digits) = valueOf digits := by
  rw [valueOf_eq, Nat.ofDigitChars_append, Nat.ofDigitChars_replicate_zero, valueOf_eq,
    Nat.mul_zero]

theorem valueOf_decimalDigits (value : Nat) : valueOf (decimalDigits value) = value := by
  rw [valueOf_eq, decimalDigits, Nat.ofDigitChars_ten_toDigits]

theorem isDigit_decimalDigits (value : Nat) : ∀ c ∈ decimalDigits value, c.isDigit :=
  fun _ member => isDigit_of_mem_toDigits member

theorem isDigit_append {left right : List Char} (first : ∀ c ∈ left, c.isDigit)
    (second : ∀ c ∈ right, c.isDigit) : ∀ c ∈ left ++ right, c.isDigit :=
  fun c member => (List.mem_append.mp member).elim (first c) (second c)

theorem isDigit_zeros (zeros : Nat) : ∀ c ∈ List.replicate zeros '0', c.isDigit := by
  intro c member
  rw [List.eq_of_mem_replicate member]
  rfl

theorem exponentText_eq (exponent : Int) : ∃ zeros,
    exponentText exponent = (if exponent < 0 then '-' else '+') ::
      (List.replicate zeros '0' ++ decimalDigits exponent.natAbs) :=
  ⟨_, rfl⟩

theorem exponent?_exponentText (exponent : Int) :
    exponent? ('e' :: exponentText exponent) = some exponent := by
  obtain ⟨zeros, spelled⟩ := exponentText_eq exponent
  have all : allDigits (List.replicate zeros '0' ++ decimalDigits exponent.natAbs) := by
    have digits := isDigit_append (isDigit_zeros zeros)
      (isDigit_decimalDigits exponent.natAbs)
    have some : List.replicate zeros '0' ++ decimalDigits exponent.natAbs ≠ [] := by
      simp [decimalDigits]
    rw [allDigits, Bool.and_eq_true, List.all_eq_true]
    exact ⟨by simpa using some, digits⟩
  have value : valueOf (List.replicate zeros '0' ++ decimalDigits exponent.natAbs) =
      exponent.natAbs := by
    rw [valueOf_zeros_append, valueOf_decimalDigits]
  rw [spelled]
  split
  case isTrue negative =>
    simp [exponent?, splitSign, all, value, abs_of_neg negative]
  case isFalse natural =>
    simp [exponent?, splitSign, all, value, abs_of_nonneg (Int.not_lt.mp natural)]

theorem exponentLexeme_exponentText (exponent : Int) :
    exponentLexeme ('e' :: exponentText exponent) = 'e' :: exponentText exponent := by
  obtain ⟨zeros, spelled⟩ := exponentText_eq exponent
  have digits : (List.replicate zeros '0' ++ decimalDigits exponent.natAbs).takeWhile
      Text.isDecimal = List.replicate zeros '0' ++ decimalDigits exponent.natAbs :=
    List.takeWhile_eq_self_iff.mpr fun c member =>
      Text.isDecimal_of_isDigit (isDigit_append (isDigit_zeros zeros)
        (isDigit_decimalDigits _) c member)
  have some : List.replicate zeros '0' ++ decimalDigits exponent.natAbs ≠ [] := by
    simp [decimalDigits]
  rw [spelled]
  split <;> simp [exponentLexeme, digits, some]

namespace IsDecimal

variable {whole fraction tail : List Char} {exponent : Int}

theorem tail_head (decimal : IsDecimal whole fraction tail exponent) :
    ∀ c ∈ tail.head?, c = 'e' := by
  rcases decimal.tailSpells with ⟨rfl, _⟩ | rfl <;> simp

theorem rest_head (decimal : IsDecimal whole fraction tail exponent) :
    ∀ c ∈ (pointed fraction ++ tail).head?, c = '.' ∨ c = 'e' := by
  have last := decimal.tail_head
  unfold pointed
  split
  · exact fun c member => .inr (last c member)
  · simp

theorem split (accepts : Char → Bool) (decimal : IsDecimal whole fraction tail exponent)
    (digits : ∀ c, c.isDigit → accepts c) (point : accepts '.' = false) (e : accepts 'e' = false) :
    (whole ++ (pointed fraction ++ tail)).takeWhile accepts = whole ∧
      (whole ++ (pointed fraction ++ tail)).dropWhile accepts = pointed fraction ++ tail ∧
      (fraction ++ tail).takeWhile accepts = fraction ∧
      (fraction ++ tail).dropWhile accepts = tail := by
  have stops : ∀ c ∈ (pointed fraction ++ tail).head?, accepts c = false := by
    intro c member
    rcases decimal.rest_head c member with rfl | rfl
    · exact point
    · exact e
  have stopsTail : ∀ c ∈ tail.head?, accepts c = false := by
    intro c member
    rw [decimal.tail_head c member]
    exact e
  have allWhole : ∀ c ∈ whole, accepts c := fun c member => digits c (decimal.wholeDigits c member)
  have allFraction : ∀ c ∈ fraction, accepts c := fun c member =>
    digits c (decimal.fractionDigits c member)
  obtain ⟨takes, drops⟩ := takeWhile_append_stop whole stops
  obtain ⟨takesTail, dropsTail⟩ := takeWhile_append_stop fraction stopsTail
  rw [takes, drops, takesTail, dropsTail, List.takeWhile_eq_self_iff.mpr allWhole,
    List.dropWhile_eq_nil_iff.mpr allWhole, List.takeWhile_eq_self_iff.mpr allFraction,
    List.dropWhile_eq_nil_iff.mpr allFraction]
  exact ⟨rfl, rfl, rfl, rfl⟩

theorem numberLexeme (decimal : IsDecimal whole fraction tail exponent) :
    Lexer.numberLexeme (whole ++ (pointed fraction ++ tail)) =
      whole ++ (pointed fraction ++ tail) := by
  obtain ⟨takes, drops, takesFraction, _⟩ := decimal.split Text.isDecimal
    (fun _ => Text.isDecimal_of_isDigit) (Text.isDecimal_of_code rfl (by decide))
    (Text.isDecimal_of_code rfl (by decide))
  have exponents : exponentLexeme tail = tail := by
    rcases decimal.tailSpells with ⟨rfl, _⟩ | rfl
    · rfl
    · exact exponentLexeme_exponentText exponent
  have fractions : fractionLexeme (pointed fraction ++ tail) = pointed fraction := by
    unfold pointed
    split
    case isTrue none =>
      rcases decimal.tailSpells with ⟨rfl, _⟩ | rfl <;> rfl
    case isFalse some =>
      rw [List.cons_append, fractionLexeme, takesFraction, if_neg some]
  simp only [Lexer.numberLexeme, takes, drops, fractions, List.drop_left, exponents]
  simp [decimal.nonempty]

theorem unsigned? (decimal : IsDecimal whole fraction tail exponent) (negative : Bool) :
    Numeral.unsigned? negative (whole ++ (pointed fraction ++ tail)) =
      some (.ofDecimal negative (valueOf (whole ++ fraction)) (exponent - fraction.length)) := by
  obtain ⟨takes, drops, takesFraction, dropsFraction⟩ := decimal.split Char.isDigit
    (fun _ digit => digit) rfl rfl
  have exponents : exponent? tail = some exponent := by
    rcases decimal.tailSpells with ⟨rfl, rfl⟩ | rfl
    · rfl
    · exact exponent?_exponentText exponent
  simp only [Numeral.unsigned?, takes, drops]
  cases fraction with
  | nil =>
      rcases decimal.tailSpells with ⟨rfl, rfl⟩ | rfl
      · simp [pointed, decimal.nonempty, exponent?]
      · simp [pointed, decimal.nonempty, exponents]
  | cons c rest =>
      rw [List.cons_append] at takesFraction dropsFraction
      simp [pointed, takesFraction, dropsFraction, exponents]

theorem plain (decimal : IsDecimal whole fraction tail exponent) :
    ∀ c ∈ whole ++ (pointed fraction ++ tail), 33 ≤ c.toNat ∧ c.toNat < 127 ∧ c ≠ '_' := by
  have digits : ∀ {text : List Char}, (∀ c ∈ text, c.isDigit) →
      ∀ c ∈ text, 33 ≤ c.toNat ∧ c.toNat < 127 ∧ c ≠ '_' :=
    fun all c member => plain_of_isDigit (all c member)
  have tails : ∀ c ∈ tail, 33 ≤ c.toNat ∧ c.toNat < 127 ∧ c ≠ '_' := by
    rcases decimal.tailSpells with ⟨rfl, _⟩ | rfl
    · simp
    · obtain ⟨zeros, spelled⟩ := exponentText_eq exponent
      rw [spelled, List.forall_mem_cons, List.forall_mem_cons]
      refine ⟨by decide, ?_, digits (isDigit_append (isDigit_zeros zeros)
        (isDigit_decimalDigits _))⟩
      split <;> decide
  have fractions : ∀ c ∈ pointed fraction, 33 ≤ c.toNat ∧ c.toNat < 127 ∧ c ≠ '_' := by
    unfold pointed
    split
    · simp
    · exact List.forall_mem_cons.mpr ⟨by decide, digits decimal.fractionDigits⟩
  exact List.forall_mem_append.mpr ⟨digits decimal.wholeDigits,
    List.forall_mem_append.mpr ⟨fractions, tails⟩⟩

theorem marks (decimal : IsDecimal whole fraction tail exponent) :
    (whole ++ (pointed fraction ++ tail)).any (fun c => c == '.' || c == 'e' || c == 'E') := by
  rw [List.any_append, List.any_append, Bool.or_eq_true, Bool.or_eq_true]
  right
  rcases decimal.marked with some | some
  · left
    simp [pointed, some]
  · right
    rcases decimal.tailSpells with ⟨rfl, _⟩ | rfl
    · exact absurd rfl some
    · rfl

/-- A decimal is read as the value of its digits. -/
theorem numeral? (decimal : IsDecimal whole fraction tail exponent) :
    Grammar.numeral? (String.ofList (whole ++ (pointed fraction ++ tail))) =
      some (.float (.ofDecimal false (valueOf (whole ++ fraction))
        (exponent - fraction.length))) := by
  have prepared := prepared?_ascii decimal.plain
  obtain ⟨c, rest, rfl⟩ := List.exists_cons_of_ne_nil decimal.nonempty
  have digit := decimal.wholeDigits c List.mem_cons_self
  rw [Grammar.numeral?, String.toList_ofList, if_pos decimal.marks,
    decimal?_digit digit (by simpa using prepared), ← List.cons_append, decimal.unsigned?]
  rfl

end IsDecimal

/-- The digits of a positive number without the zeros at the end. -/
theorem exists_significant {digits : Nat} (positive : 0 < digits) : ∃ zeros,
    ((decimalDigits digits).reverse.dropWhile (· == '0')).reverse ≠ [] ∧
      (∀ c ∈ ((decimalDigits digits).reverse.dropWhile (· == '0')).reverse, c.isDigit) ∧
      (decimalDigits digits).length =
        ((decimalDigits digits).reverse.dropWhile (· == '0')).reverse.length + zeros ∧
      valueOf ((decimalDigits digits).reverse.dropWhile (· == '0')).reverse * 10 ^ zeros =
        digits := by
  have zeros : (decimalDigits digits).reverse.takeWhile (· == '0') =
      List.replicate ((decimalDigits digits).reverse.takeWhile (· == '0')).length '0' :=
    List.eq_replicate_of_mem fun c member => by simpa using List.mem_takeWhile_imp member
  have parts : decimalDigits digits =
      ((decimalDigits digits).reverse.dropWhile (· == '0')).reverse ++
        List.replicate ((decimalDigits digits).reverse.takeWhile (· == '0')).length '0' := by
    have whole := congrArg List.reverse
      (List.takeWhile_append_dropWhile (p := (· == '0')) (l := (decimalDigits digits).reverse))
    rw [List.reverse_append, List.reverse_reverse, zeros, List.reverse_replicate] at whole
    exact whole.symm
  have value := congrArg valueOf parts
  rw [valueOf_decimalDigits, valueOf_append_zeros] at value
  refine ⟨_, ?_, ?_, ?_, value.symm⟩
  · intro none
    rw [none] at value
    rw [value] at positive
    exact absurd positive (by simp [valueOf])
  · intro c member
    apply isDigit_decimalDigits digits
    rw [parts]
    exact List.mem_append_left _ member
  · have length := congrArg List.length parts
    rwa [List.length_append, List.length_replicate] at length

/-- The text is a decimal with the value of these digits and this exponent. -/
def Names (text : List Char) (digits : Nat) (exponent : Int) : Prop :=
  ∃ whole fraction tail shift, IsDecimal whole fraction tail shift ∧
    text = whole ++ (pointed fraction ++ tail) ∧
    Binary64.ofDecimal false (valueOf (whole ++ fraction)) (shift - fraction.length) =
      Binary64.ofDecimal false digits exponent

section

variable {digits : List Char} (some : digits ≠ []) (all : ∀ c ∈ digits, c.isDigit) {top : Int}

include some all

theorem names_below (below : top < 0) :
    Names ('0' :: '.' :: List.replicate (-top - 1).toNat '0' ++ digits) (valueOf digits)
      (top + 1 - digits.length) := by
  refine ⟨['0'], List.replicate (-top - 1).toNat '0' ++ digits, [], 0, ⟨by simp, by simp,
    isDigit_append (isDigit_zeros _) all, .inl ⟨rfl, rfl⟩, .inl (by simp [some])⟩, ?_, ?_⟩
  · simp [pointed, some]
  · have joined : valueOf (['0'] ++ (List.replicate (-top - 1).toNat '0' ++ digits)) =
        valueOf digits := by
      rw [← List.replicate_one, valueOf_zeros_append, valueOf_zeros_append]
    rw [joined, List.length_append, List.length_replicate]
    congr 1
    push_cast
    omega

theorem names_within (positive : 0 < valueOf digits) (above : 0 ≤ top) :
    Names (digits.take (top + 1).toNat ++
        List.replicate ((top + 1).toNat - (digits.take (top + 1).toNat).length) '0' ++
        '.' :: (if (digits.drop (top + 1).toNat).isEmpty then ['0']
          else digits.drop (top + 1).toNat)) (valueOf digits) (top + 1 - digits.length) := by
  rcases Nat.lt_or_ge (top + 1).toNat digits.length with more | fewer
  · have rest : digits.drop (top + 1).toNat ≠ [] := by
      rw [Ne, List.drop_eq_nil_iff]
      omega
    have restNonempty : ¬ (digits.drop (top + 1).toNat).isEmpty := by
      rwa [List.isEmpty_iff]
    have length : (digits.take (top + 1).toNat).length = (top + 1).toNat :=
      List.length_take_of_le more.le
    refine ⟨digits.take (top + 1).toNat, digits.drop (top + 1).toNat, [], 0, ⟨?_,
      fun c member => all c (List.mem_of_mem_take member),
      fun c member => all c (List.mem_of_mem_drop member), .inl ⟨rfl, rfl⟩, .inl rest⟩, ?_, ?_⟩
    · rw [← List.length_pos_iff, length]
      omega
    · rw [length, Nat.sub_self, List.replicate_zero, List.append_nil, List.append_nil, pointed,
        if_neg restNonempty, if_neg restNonempty]
    · rw [List.take_append_drop, List.length_drop]
      congr 1
      omega
  · refine ⟨digits ++ List.replicate ((top + 1).toNat - digits.length) '0', ['0'], [], 0,
      ⟨by simp [some], isDigit_append all (isDigit_zeros _), by simp, .inl ⟨rfl, rfl⟩,
        .inl (by simp)⟩, ?_, ?_⟩
    · rw [List.take_of_length_le fewer, List.drop_of_length_le fewer]
      rfl
    · rw [List.append_assoc, ← List.replicate_succ', valueOf_append_zeros,
        Binary64.ofDecimal_zeros false positive]
      congr 1
      push_cast [List.length_singleton]
      omega

theorem names_scientific :
    Names (digits.take 1 ++ pointed (digits.drop 1) ++ 'e' :: exponentText top) (valueOf digits)
      (top + 1 - digits.length) := by
  have length : 0 < digits.length := List.length_pos_iff.mpr some
  refine ⟨digits.take 1, digits.drop 1, 'e' :: exponentText top, top, ⟨?_,
    fun c member => all c (List.mem_of_mem_take member),
    fun c member => all c (List.mem_of_mem_drop member), .inr rfl, .inr (by simp)⟩,
    List.append_assoc _ _ _, ?_⟩
  · rw [← List.length_pos_iff, List.length_take]
    omega
  · rw [List.take_append_drop, List.length_drop]
    congr 1
    omega

end

/-- The text of a magnitude is a decimal with the digits and the exponent of the magnitude. -/
theorem magnitudeText_names {digits : Nat} (positive : 0 < digits) (unit : Int) :
    Names (magnitudeText .plain digits unit) digits unit := by
  obtain ⟨zeros, some, all, length, value⟩ := exists_significant positive
  simp only [magnitudeText]
  generalize ((decimalDigits digits).reverse.dropWhile (· == '0')).reverse = kept
    at some all length value
  have keptPositive : 0 < valueOf kept := by
    apply Nat.pos_of_ne_zero
    intro none
    rw [none, Nat.zero_mul] at value
    exact positive.ne value
  have scaled : ∀ top : Int, top = unit + (decimalDigits digits).length - 1 →
      ∀ text, Names text (valueOf kept) (top + 1 - kept.length) → Names text digits unit := by
    rintro top shift text ⟨whole, fraction, tail, exponent, decimal, spelled, same⟩
    refine ⟨whole, fraction, tail, exponent, decimal, spelled, same.trans ?_⟩
    have place : top + 1 - kept.length = unit + zeros := by omega
    rw [place, ← Binary64.ofDecimal_zeros false keptPositive, value]
  generalize shift : unit + ((decimalDigits digits).length : Int) - 1 = top
  apply scaled top shift.symm
  split
  · split
    case isTrue below => exact names_below some all below
    case isFalse above => exact names_within some all keptPositive (Int.not_lt.mp above)
  · exact names_scientific some all

/-- Every finite floating value that a numeral names has a text that names it again. -/
theorem rereads_ofDecimal {digits : Nat} {exponent : Int}
    (finite : (Binary64.ofDecimal false digits exponent).isFinite) :
    (Binary64.ofDecimal false digits exponent).Rereads := by
  have rereads : ∀ {value : Binary64} {whole fraction tail : List Char} {exponent : Int},
      IsDecimal whole fraction tail exponent →
      (value.text .plain).toList = whole ++ (pointed fraction ++ tail) →
      Binary64.ofDecimal false (valueOf (whole ++ fraction)) (exponent - fraction.length) = value →
      value.Rereads := by
    intro value whole fraction tail exponent decimal spelled same
    refine ⟨?_, ?_, ?_⟩
    · obtain ⟨c, rest, rfl⟩ := List.exists_cons_of_ne_nil decimal.nonempty
      exact ⟨c, _, spelled, decimal.wholeDigits c List.mem_cons_self⟩
    · rw [spelled, decimal.numberLexeme]
    · rw [← String.ofList_toList (s := value.text .plain), spelled, decimal.numeral?, same]
  cases reads : Binary64.ofDecimal false digits exponent with
  | nan origin => rw [reads] at finite; cases finite
  | infinite negative => rw [reads] at finite; cases finite
  | finite negative significand place =>
      obtain ⟨rfl, canonical⟩ := Binary64.ofDecimal_canonical reads
      by_cases zero : significand = 0
      · subst zero
        have least : place = Binary64.leastExponent := canonical.full.resolve_left (by decide)
        subst least
        have decimal : IsDecimal ['0'] ['0'] [] 0 :=
          ⟨by simp, by simp, by simp, .inl ⟨rfl, rfl⟩, .inl (by simp)⟩
        exact rereads decimal rfl rfl
      · have shortest := Binary64.ofDecimal_shortest canonical zero
        have positive : 0 < (Binary64.shortest significand place).1 := by
          apply Nat.pos_of_ne_zero
          intro none
          rw [none, Binary64.ofDecimal_zero] at shortest
          cases shortest
          exact zero rfl
        obtain ⟨whole, fraction, tail, exponent, decimal, spelled, same⟩ :=
          magnitudeText_names positive (Binary64.shortest significand place).2
        apply rereads decimal _ (same.trans shortest)
        simp only [Binary64.text, zero, if_false, spelled, String.toList_ofList,
          Bool.false_eq_true]

end Templating.Numeral
