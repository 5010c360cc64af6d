import Mathlib.Data.List.Infix
import Mathlib.Data.List.TakeWhile
import Templating.Canonical
import Templating.Proofs.Lexer.Progress

/-!
Escaped text reads back as the text. Backslashes keep every opener in a text literal, and what is
put between a text and a tag keeps the text from joining with the tag.
-/

namespace Templating

open Lexer Canonical

/-- Openers that can be told apart in a text: no two start alike, and none has a character that
means something else beside an opener. -/
structure OpenersApart (openers : List (List Char)) : Prop where
  nonempty : [] ∉ openers
  noSlash : ∀ opener ∈ openers, '\\' ∉ opener
  noBlank : ∀ opener ∈ openers, ∀ c ∈ opener, Text.isBlank c = false
  apart : ∀ first ∈ openers, ∀ second ∈ openers, first <+: second → first = second

namespace OpenersApart

variable {openers : List (List Char)}

theorem opener?_eq_some (apart : OpenersApart openers) {text opener : List Char} :
    opener? openers text = some opener ↔ opener ∈ openers ∧ opener <+: text := by
  constructor
  · intro found
    exact ⟨mem_of_opener? found, prefix_of_opener? found⟩
  · rintro ⟨member, starts⟩
    cases found : opener? openers text with
    | none =>
        have absent := List.find?_eq_none.mp found opener member
        exact absurd (List.isPrefixOf_iff_prefix.mpr starts) absent
    | some other =>
        have startsOther := prefix_of_opener? found
        have memberOther := mem_of_opener? found
        rcases List.prefix_or_prefix_of_prefix starts startsOther with shorter | shorter
        · rw [apart.apart opener member other memberOther shorter]
        · rw [apart.apart other memberOther opener member shorter]

end OpenersApart

theorem opener?_eq_none {openers : List (List Char)} {text : List Char} :
    opener? openers text = none ↔ ∀ opener ∈ openers, ¬ opener <+: text := by
  simp only [opener?, List.find?_eq_none, List.isPrefixOf_iff_prefix]

theorem textRun_slashes (openers : List (List Char)) (slashes count : Nat) (mark : Mark)
    (rest : List Char) :
    textRun openers slashes 0 mark (List.replicate count '\\' ++ rest) =
      textRun openers (slashes + count) 0 (mark.past (List.replicate count '\\')) rest := by
  induction count generalizing slashes mark with
  | zero => rfl
  | succ count ih =>
      rw [List.replicate_succ, List.cons_append, textRun, if_neg (by simp), if_pos rfl, ih]
      rw [Nat.add_assoc, Nat.add_comm 1 count]
      rfl

theorem precede_precede (first second : List Char) (run : List Char × Reader) :
    precede first (precede second run) = precede (first ++ second) run := by
  simp [precede]

theorem textRun_literal (openers : List (List Char)) (literal rest : List Char) (mark : Mark) :
    textRun openers 0 literal.length mark (literal ++ rest) =
      precede literal (textRun openers 0 0 (mark.past literal) rest) := by
  induction literal generalizing mark with
  | nil => rfl
  | cons c literal ih =>
      rw [List.length_cons, List.cons_append, textRun, if_pos (Nat.succ_ne_zero _),
        Nat.add_sub_cancel, ih, precede_precede]
      rfl

theorem escapeRun_literal (openers : List (List Char)) (literal rest : List Char) :
    escapeRun openers 0 literal.length (literal ++ rest) =
      literal ++ escapeRun openers 0 0 rest := by
  induction literal with
  | nil => rfl
  | cons c literal ih =>
      rw [List.length_cons, List.cons_append, escapeRun, if_pos (Nat.succ_ne_zero _),
        Nat.add_sub_cancel, ih, List.cons_append]

/-- Escaping only inserts backslashes, so it makes no new opener. -/
theorem isPrefix_of_escapeRun {openers : List (List Char)} {opener text : List Char}
    {slashes literal : Nat} (plain : '\\' ∉ opener)
    (starts : opener <+: escapeRun openers slashes literal text) : opener <+: text := by
  induction text generalizing opener slashes literal with
  | nil => simpa [escapeRun] using starts
  | cons c rest ih =>
      cases opener with
      | nil => exact List.nil_prefix
      | cons d others =>
          have noSlash : '\\' ∉ others := fun member => plain (List.mem_cons_of_mem d member)
          have copied : ∀ slashes literal,
              d :: others <+: c :: escapeRun openers slashes literal rest → d :: others <+: c :: rest := by
            intro slashes literal starts
            obtain ⟨rfl, more⟩ := List.cons_prefix_cons.mp starts
            exact List.cons_prefix_cons.mpr ⟨rfl, ih noSlash more⟩
          unfold escapeRun at starts
          split at starts
          · exact copied _ _ starts
          · split at starts
            · rw [List.replicate_succ, List.cons_append] at starts
              exact absurd (List.cons_prefix_cons.mp starts).1
                (fun same => plain (same ▸ List.mem_cons_self))
            · exact copied _ _ starts

/-- Some end of the text starts an opener that what comes next completes. -/
def Crosses (openers : List (List Char)) (text next : List Char) : Prop :=
  ∃ tail, tail <:+ text ∧ tail ≠ [] ∧
    ∃ opener ∈ openers, opener <+: tail ++ next ∧ tail.length < opener.length

theorem Crosses.of_suffix {openers : List (List Char)} {tail text next : List Char}
    (ends : tail <:+ text) (crosses : Crosses openers tail next) : Crosses openers text next := by
  obtain ⟨part, partEnds, found⟩ := crosses
  exact ⟨part, partEnds.trans ends, found⟩

/-- The backslashes at the end of a text. -/
def trailingSlashes (text : List Char) : List Char :=
  text.reverse.takeWhile (· == '\\')

theorem trailingSlashes_eq_replicate (text : List Char) :
    trailingSlashes text = List.replicate (trailingSlashes text).length '\\' := by
  apply List.eq_replicate_of_mem
  intro c member
  simpa using List.mem_takeWhile_imp member

theorem trailingSlashes_replicate (count : Nat) :
    trailingSlashes (List.replicate count '\\') = List.replicate count '\\' := by
  simp [trailingSlashes]

theorem trailingSlashes_append {c : Char} (plain : c ≠ '\\') (before rest : List Char) :
    trailingSlashes (before ++ c :: rest) = trailingSlashes rest := by
  have stops : (c :: before.reverse).takeWhile (· == '\\') = [] := by simp [plain]
  rw [trailingSlashes, List.reverse_append, List.reverse_cons, List.append_assoc,
    List.singleton_append, List.takeWhile_append, stops, List.append_nil, trailingSlashes]
  split
  case isTrue whole => exact ((List.takeWhile_prefix _).eq_of_length whole).symm
  · rfl

theorem trailingSlashes_opener {openers : List (List Char)} (apart : OpenersApart openers)
    {opener : List Char} (member : opener ∈ openers) (before rest : List Char) :
    trailingSlashes (before ++ opener ++ rest) = trailingSlashes rest := by
  rcases List.eq_nil_or_concat opener with rfl | ⟨others, c, rfl⟩
  · exact absurd member apart.nonempty
  · have plain : c ≠ '\\' := fun same => apart.noSlash _ member (by simp [same])
    simpa using trailingSlashes_append plain (before ++ others) rest

theorem escapeRun_opener {openers : List (List Char)} (apart : OpenersApart openers)
    {opener : List Char} (member : opener ∈ openers) (slashes : Nat) (rest : List Char) :
    escapeRun openers slashes 0 (opener ++ rest) =
      List.replicate (slashes + 1) '\\' ++ opener ++ escapeRun openers 0 0 rest := by
  cases opener with
  | nil => exact absurd member apart.nonempty
  | cons c others =>
      have found : opener? openers (c :: (others ++ rest)) = some (c :: others) :=
        apart.opener?_eq_some.mpr ⟨member, List.prefix_append (c :: others) rest⟩
      rw [List.cons_append, escapeRun, if_neg (by simp), found]
      simp only [List.length_cons, Nat.add_sub_cancel, escapeRun_literal, List.append_assoc,
        List.cons_append]

theorem textRun_opener {openers : List (List Char)} (apart : OpenersApart openers)
    {opener : List Char} (member : opener ∈ openers) (slashes : Nat) (mark : Mark)
    (rest : List Char) :
    ∃ mark', textRun openers slashes 0 mark
        (List.replicate (slashes + 1) '\\' ++ opener ++ rest) =
      precede (List.replicate slashes '\\' ++ opener) (textRun openers 0 0 mark' rest) := by
  cases opener with
  | nil => exact absurd member apart.nonempty
  | cons c others =>
      have found : opener? openers (c :: (others ++ rest)) = some (c :: others) :=
        apart.opener?_eq_some.mpr ⟨member, List.prefix_append (c :: others) rest⟩
      have plain : c ≠ '\\' := fun same =>
        apart.noSlash _ member (same ▸ List.mem_cons_self)
      have odd : (slashes + (slashes + 1)) % 2 = 1 := by omega
      have half : (slashes + (slashes + 1)) / 2 = slashes := by omega
      refine ⟨((mark.past (List.replicate (slashes + 1) '\\')).step c).past others, ?_⟩
      rw [List.append_assoc, textRun_slashes, List.cons_append, textRun, if_neg (by simp),
        if_neg plain, found]
      simp only [odd, if_true, half, List.length_cons, Nat.add_sub_cancel, textRun_literal,
        precede_precede, List.append_assoc, List.singleton_append]

/-- Reading an escaped text gives the text back, but for the backslashes at its end: what they mean
is settled by what comes next. -/
theorem textRun_escapeRun {openers : List (List Char)} (apart : OpenersApart openers)
    {next : List Char} (slashes : Nat) (mark : Mark) (text : List Char)
    (separate : ¬ Crosses openers (escapeRun openers slashes 0 text) next) :
    ∃ start count mark',
      textRun openers slashes 0 mark (escapeRun openers slashes 0 text ++ next) =
        precede start (textRun openers count 0 mark' next) ∧
      List.replicate slashes '\\' ++ text = start ++ List.replicate count '\\' ∧
      trailingSlashes (List.replicate slashes '\\' ++ escapeRun openers slashes 0 text) =
        List.replicate count '\\' := by
  induction length : text.length using Nat.strong_induction_on generalizing slashes mark text with
  | _ size ih =>
      cases text with
      | nil =>
          refine ⟨[], slashes, mark, rfl, ?_, ?_⟩
          · simp
          · simpa [escapeRun] using trailingSlashes_replicate slashes
      | cons c rest =>
          cases found : opener? openers (c :: rest) with
          | some opener =>
              have member := mem_of_opener? found
              obtain ⟨others, split⟩ := prefix_of_opener? found
              rw [← split] at separate length ⊢
              rw [escapeRun_opener apart member] at separate ⊢
              have shorter : others.length < size := by
                have positive := List.length_pos_iff.mpr
                  (fun empty => apart.nonempty (empty ▸ member) : opener ≠ [])
                rw [← length, List.length_append]
                omega
              obtain ⟨between, readsOpener⟩ := textRun_opener apart member slashes mark
                (escapeRun openers 0 0 others ++ next)
              obtain ⟨start, count, after, reads, same, ends⟩ :=
                ih others.length shorter 0 between others
                  (fun crosses => separate (Crosses.of_suffix (List.suffix_append _ _) crosses)) rfl
              refine ⟨List.replicate slashes '\\' ++ opener ++ start, count, after, ?_, ?_, ?_⟩
              · rw [List.append_assoc _ _ next, readsOpener, reads, precede_precede]
              · simpa using same
              · rw [← ends, List.replicate_zero, List.nil_append]
                simpa only [List.append_assoc] using trailingSlashes_opener apart member
                  (List.replicate slashes '\\' ++ List.replicate (slashes + 1) '\\')
                  (escapeRun openers 0 0 others)
          | none =>
              have unescaped : escapeRun openers slashes 0 (c :: rest) =
                  c :: escapeRun openers (if c = '\\' then slashes + 1 else 0) 0 rest := by
                rw [escapeRun, if_neg (by simp), found]
              have inner : escapeRun openers (if c = '\\' then slashes + 1 else 0) 0 rest <:+
                  escapeRun openers slashes 0 (c :: rest) := by
                rw [unescaped]
                exact List.suffix_cons _ _
              have separateRest := fun crosses => separate (Crosses.of_suffix inner crosses)
              by_cases slash : c = '\\'
              · subst slash
                simp only [if_true] at unescaped separateRest
                obtain ⟨start, count, after, reads, same, ends⟩ :=
                  ih rest.length (by rw [← length]; simp) (slashes + 1) (mark.step '\\') rest
                    separateRest rfl
                have moved : ∀ others, List.replicate slashes '\\' ++ '\\' :: others =
                    List.replicate (slashes + 1) '\\' ++ others := by
                  intro others
                  rw [List.replicate_succ', List.append_assoc, List.singleton_append]
                refine ⟨start, count, after, ?_, ?_, ?_⟩
                · rw [unescaped, List.cons_append, textRun, if_neg (by simp), if_pos rfl, reads]
                · rw [moved, same]
                · rw [unescaped, moved, ends]
              · simp only [slash, if_false] at unescaped separateRest
                obtain ⟨start, count, after, reads, same, ends⟩ :=
                  ih rest.length (by rw [← length]; simp) 0 (mark.step c) rest separateRest rfl
                have noOpener :
                    opener? openers (c :: (escapeRun openers 0 0 rest ++ next)) = none := by
                  apply opener?_eq_none.mpr
                  intro opener member starts
                  rw [← List.cons_append, ← unescaped] at starts
                  apply opener?_eq_none.mp found opener member
                  apply isPrefix_of_escapeRun (apart.noSlash opener member)
                  apply List.prefix_of_prefix_length_le starts (List.prefix_append _ next)
                  apply Nat.le_of_not_lt
                  intro longer
                  exact separate ⟨_, List.suffix_refl _, by simp [unescaped], opener, member,
                    starts, longer⟩
                refine ⟨List.replicate slashes '\\' ++ [c] ++ start, count, after, ?_, ?_, ?_⟩
                · rw [unescaped, List.cons_append, textRun, if_neg (by simp), if_neg slash,
                    noOpener, reads, precede_precede]
                · simpa using same
                · rw [unescaped, trailingSlashes_append slash]
                  simpa using ends

theorem not_crosses_nil {openers : List (List Char)} (text : List Char) :
    ¬ Crosses openers text [] := by
  rintro ⟨tail, _, _, opener, _, starts, longer⟩
  have shorter := starts.length_le
  rw [List.append_nil] at shorter
  omega

/-- An opener that goes past a text has the first character after it. -/
theorem mem_of_crosses {openers : List (List Char)} {text next : List Char} {c : Char}
    (crosses : Crosses openers text (c :: next)) : ∃ opener ∈ openers, c ∈ opener := by
  obtain ⟨tail, _, _, opener, member, ⟨rest, whole⟩, longer⟩ := crosses
  refine ⟨opener, member, ?_⟩
  have there : (opener ++ rest)[tail.length]? = some c := by
    rw [whole]
    simp
  rw [List.getElem?_append_left longer] at there
  exact List.mem_of_getElem? there

/-- Escaped text that nothing follows reads back whole. -/
theorem textRun_escapeRun_end {openers : List (List Char)} (apart : OpenersApart openers)
    (mark : Mark) (text : List Char) :
    ∃ mark', textRun openers 0 0 mark (escapeRun openers 0 0 text) = (text, ⟨[], mark'⟩) := by
  obtain ⟨start, count, after, reads, same, _⟩ :=
    textRun_escapeRun apart 0 mark text (not_crosses_nil _)
  rw [List.append_nil] at reads
  refine ⟨after, ?_⟩
  rw [reads, textRun, precede, ← same]
  rfl

theorem textRun_evenSlashes {openers : List (List Char)} (apart : OpenersApart openers)
    {opener : List Char} (member : opener ∈ openers) (count : Nat) (mark : Mark)
    (rest : List Char) :
    textRun openers (count + count) 0 mark (opener ++ rest) =
      (List.replicate count '\\', ⟨opener ++ rest, mark⟩) := by
  cases opener with
  | nil => exact absurd member apart.nonempty
  | cons c others =>
      have found : opener? openers (c :: (others ++ rest)) = some (c :: others) :=
        apart.opener?_eq_some.mpr ⟨member, List.prefix_append (c :: others) rest⟩
      have plain : c ≠ '\\' := fun same => apart.noSlash _ member (same ▸ List.mem_cons_self)
      have even : (count + count) % 2 = 0 := by omega
      have half : (count + count) / 2 = count := by omega
      rw [List.cons_append, textRun, if_neg (by simp), if_neg plain, found]
      simp [even, half]

/-- Before an opener, escaped text with its last backslashes doubled reads back whole. -/
theorem textRun_escapeRun_tag {openers : List (List Char)} (apart : OpenersApart openers)
    {opener : List Char} (member : opener ∈ openers) (mark : Mark) (text rest : List Char)
    (separate : ¬ Crosses openers (escapeRun openers 0 0 text)
      (trailingSlashes (escapeRun openers 0 0 text) ++ opener ++ rest)) :
    ∃ mark', textRun openers 0 0 mark (escapeRun openers 0 0 text ++
        (trailingSlashes (escapeRun openers 0 0 text) ++ opener ++ rest)) =
      (text, ⟨opener ++ rest, mark'⟩) := by
  obtain ⟨start, count, after, reads, same, ends⟩ :=
    textRun_escapeRun apart 0 mark text separate
  rw [List.replicate_zero, List.nil_append] at same ends
  rw [ends] at reads ⊢
  refine ⟨after.past (List.replicate count '\\'), ?_⟩
  rw [reads, List.append_assoc, textRun_slashes, textRun_evenSlashes apart member, precede, same]

end Templating
