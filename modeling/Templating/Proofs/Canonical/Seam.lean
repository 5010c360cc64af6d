import Templating.Proofs.Canonical.Escaping
import Templating.Proofs.Lexer.Outside

/-!
What a spelled text leaves when it is read: itself, whether it ends the template or a tag follows.
A seam stands exactly where the text and the tag would join, and there the text ends visibly, so
the blank of the seam is all that it trims.
-/

namespace Templating

open Lexer Canonical

theorem escapeRun_getLast? (openers : List (List Char)) (slashes literal : Nat)
    (text : List Char) : (escapeRun openers slashes literal text).getLast? = text.getLast? := by
  have onwards : ∀ (c : Char) (start more rest : List Char), more.getLast? = rest.getLast? →
      (start ++ c :: more).getLast? = (c :: rest).getLast? := by
    intro c start more rest same
    rw [List.getLast?_append_of_ne_nil _ (List.cons_ne_nil c more), List.getLast?_cons,
      List.getLast?_cons, same]
  induction text generalizing slashes literal with
  | nil => rfl
  | cons c rest ih =>
      unfold escapeRun
      split
      · exact onwards c [] _ rest (ih 0 (literal - 1))
      · split
        · exact onwards c _ _ rest (ih 0 _)
        · exact onwards c [] _ rest (ih _ 0)

theorem isPrefix_of_blank {opener before rest : List Char} (noBlank : ' ' ∉ opener)
    (starts : opener <+: before ++ ' ' :: rest) : opener <+: before := by
  rcases List.prefix_or_prefix_of_prefix starts (List.prefix_append before (' ' :: rest)) with
    shorter | longer
  · exact shorter
  · obtain ⟨more, rfl⟩ := longer
    have next : more <+: ' ' :: rest := (List.prefix_append_right_inj before).mp starts
    cases more with
    | nil => exact ⟨[], by simp⟩
    | cons c more =>
        obtain ⟨rfl, _⟩ := List.cons_prefix_cons.mp next
        exact absurd (by simp) noBlank

namespace OpenersApart

variable {openers : List (List Char)}

theorem space_notMem (apart : OpenersApart openers) {opener : List Char}
    (member : opener ∈ openers) : ' ' ∉ opener := by
  intro inside
  have blank := apart.noBlank opener member ' ' inside
  cases blank

theorem crosses_cons (apart : OpenersApart openers) {c : Char} {rest next : List Char} :
    Crosses openers (c :: rest) next ↔
      (∃ opener, opener? openers (c :: rest ++ next) = some opener ∧
        rest.length + 1 < opener.length) ∨ Crosses openers rest next := by
  constructor
  · rintro ⟨tail, ends, something, opener, member, starts, longer⟩
    rcases List.suffix_cons_iff.mp ends with rfl | inner
    · exact .inl ⟨opener, apart.opener?_eq_some.mpr ⟨member, starts⟩, longer⟩
    · exact .inr ⟨tail, inner, something, opener, member, starts, longer⟩
  · rintro (⟨opener, found, longer⟩ | crosses)
    · obtain ⟨member, starts⟩ := apart.opener?_eq_some.mp found
      exact ⟨_, List.suffix_refl _, List.cons_ne_nil _ _, opener, member, starts, longer⟩
    · exact crosses.of_suffix (List.suffix_cons _ _)

theorem straddles_eq_true (apart : OpenersApart openers) {next text : List Char} :
    straddles openers next text = true ↔ Crosses openers text (next ++ [' ']) := by
  induction text with
  | nil =>
      constructor
      · intro never
        cases never
      · rintro ⟨tail, ends, something, _⟩
        exact absurd (List.suffix_nil.mp ends) something
  | cons c rest ih =>
      rw [straddles, Bool.or_eq_true, ih, apart.crosses_cons, ← List.append_assoc]
      cases found : opener? openers (c :: rest ++ next ++ [' ']) <;> simp

end OpenersApart

theorem length_le_longest {openers : List (List Char)} {opener : List Char}
    (member : opener ∈ openers) : opener.length ≤ (openers.map List.length).foldl max 0 := by
  have grows : ∀ (sizes : List Nat) (start size : Nat), size ≤ start ∨ size ∈ sizes →
      size ≤ sizes.foldl max start := by
    intro sizes
    induction sizes with
    | nil =>
        rintro start size (least | none)
        · exact least
        · cases none
    | cons first sizes ih =>
        rintro start size (least | listed)
        · exact ih _ _ (.inl (Nat.le_trans least (Nat.le_max_left _ _)))
        · rcases List.mem_cons.mp listed with rfl | later
          · exact ih _ _ (.inl (Nat.le_max_right _ _))
          · exact ih _ _ (.inr later)
  exact grows _ _ _ (.inr (List.mem_map_of_mem member))

/-- An opener that goes past a text starts in its last characters. -/
theorem Crosses.of_tail {openers : List (List Char)} {text next : List Char}
    (crosses : Crosses openers text next) :
    Crosses openers
      (text.drop (text.length - ((openers.map List.length).foldl max 0 - 1))) next := by
  obtain ⟨tail, ends, something, opener, member, starts, longer⟩ := crosses
  have most := length_le_longest member
  refine ⟨tail, ?_, something, opener, member, starts, longer⟩
  apply List.suffix_of_suffix_length_le ends (List.drop_suffix _ _)
  rw [List.length_drop]
  have inside := ends.length_le
  omega

/-- Where no seam is needed, no opener goes from the text into the tag. -/
theorem not_crosses_of_not_joins {delimiters : Delimiters}
    (apart : OpenersApart (openersOf delimiters)) {text opener : List Char}
    (separate : joinsNextTag delimiters (openersOf delimiters) text = false)
    (tag : opener = delimiters.expressionOpen.toList ∨ opener = delimiters.blockOpen.toList)
    (rest : List Char) :
    ¬ Crosses (openersOf delimiters) text (trailingSlashes text ++ opener ++ ' ' :: rest) := by
  intro crosses
  cases slashes : trailingSlashes text with
  | cons c others =>
      have slash : c = '\\' := by
        have all := trailingSlashes_eq_replicate text
        rw [slashes] at all
        exact (List.cons.inj all).1
      subst slash
      rw [slashes, List.cons_append, List.cons_append] at crosses
      obtain ⟨other, member, inside⟩ := mem_of_crosses crosses
      exact apart.noSlash other member inside
  | nil =>
      rw [slashes, List.nil_append] at crosses
      have shorter : Crosses (openersOf delimiters) text (opener ++ [' ']) := by
        obtain ⟨tail, ends, something, other, member, starts, longer⟩ := crosses
        rw [← List.append_assoc] at starts
        refine ⟨tail, ends, something, other, member, ?_, longer⟩
        rw [← List.append_assoc]
        exact (isPrefix_of_blank (apart.space_notMem member) starts).trans
          (List.prefix_append _ _)
      have found := apart.straddles_eq_true.mpr shorter.of_tail
      simp only [joinsNextTag, Bool.or_eq_false_iff] at separate
      rcases tag with rfl | rfl
      · rw [separate.1] at found
        cases found
      · rw [separate.2] at found
        cases found

/-- Where a seam is needed, the text ends with a character of an opener. -/
theorem visible_end_of_joins {delimiters : Delimiters}
    (apart : OpenersApart (openersOf delimiters)) {text : List Char}
    (joins : joinsNextTag delimiters (openersOf delimiters) text = true) :
    ∃ c, text.getLast? = some c ∧ Text.isBlank c = false := by
  have crossed : ∃ next, Crosses (openersOf delimiters) text next := by
    simp only [joinsNextTag, Bool.or_eq_true] at joins
    rcases joins with found | found
    · exact ⟨_, (apart.straddles_eq_true.mp found).of_suffix (List.drop_suffix _ _)⟩
    · exact ⟨_, (apart.straddles_eq_true.mp found).of_suffix (List.drop_suffix _ _)⟩
  obtain ⟨next, tail, ends, something, opener, member, starts, longer⟩ := crossed
  have part : tail <+: opener :=
    List.prefix_of_prefix_length_le (List.prefix_append _ _) starts (Nat.le_of_lt longer)
  refine ⟨tail.getLast something, ?_, ?_⟩
  · obtain ⟨before, rfl⟩ := ends
    rw [List.getLast?_append_of_ne_nil _ something, List.getLast?_eq_some_getLast something]
  · exact apart.noBlank opener member _ (part.subset (List.getLast_mem something))

theorem opener?_space {openers : List (List Char)} (apart : OpenersApart openers)
    (rest : List Char) : opener? openers (' ' :: rest) = none := by
  apply opener?_eq_none.mpr
  intro opener member starts
  cases opener with
  | nil => exact apart.nonempty member
  | cons c others =>
      obtain ⟨rfl, _⟩ := List.cons_prefix_cons.mp starts
      exact apart.space_notMem member List.mem_cons_self

/-- A text and a blank before an opener read as the text and the blank. -/
theorem textRun_escapeRun_space {openers : List (List Char)} (apart : OpenersApart openers)
    {opener : List Char} (member : opener ∈ openers) (mark : Mark) (text rest : List Char) :
    ∃ mark', textRun openers 0 0 mark (escapeRun openers 0 0 text ++ (' ' :: opener ++ rest)) =
      (text ++ [' '], ⟨opener ++ rest, mark'⟩) := by
  have separate : ¬ Crosses openers (escapeRun openers 0 0 text) (' ' :: opener ++ rest) := by
    intro crosses
    obtain ⟨other, memberOther, inside⟩ := mem_of_crosses crosses
    exact apart.space_notMem memberOther inside
  obtain ⟨start, count, after, reads, same, _⟩ := textRun_escapeRun apart 0 mark text separate
  rw [List.replicate_zero, List.nil_append] at same
  refine ⟨after.step ' ', ?_⟩
  rw [reads, List.cons_append, textRun, if_neg (by simp), if_neg (by decide), opener?_space apart]
  simp only [textRun_at_opener apart member, precede]
  rw [same, List.append_nil, List.append_assoc]

theorem trimEnd_space {text : List Char}
    (visible : ∀ c ∈ text.getLast?, Text.isBlank c = false) :
    Text.trimEnd (text ++ [' ']) = text := by
  have space : Text.isBlank ' ' = true := by decide
  cases text using List.reverseRecOn with
  | nil => rfl
  | append_singleton before c =>
      have last : Text.isBlank c = false := visible c (by simp)
      simp [Text.trimEnd, space, last]

theorem escapeText_toList (delimiters : Delimiters) (content : String) :
    (escapeText delimiters content true).toList =
      escapeRun (openersOf delimiters) 0 0 content.toList ++
        if joinsNextTag delimiters (openersOf delimiters)
            (escapeRun (openersOf delimiters) 0 0 content.toList) then
          Canonical.seam delimiters
        else trailingSlashes (escapeRun (openersOf delimiters) 0 0 content.toList) := by
  simp only [escapeText, openersOf, Bool.not_true, Bool.false_eq_true, if_false]
  split
  case isTrue joins => simp [joins]
  case isFalse separate => simp [separate, trailingSlashes]

namespace Lexer

theorem Reader.Passes.past {text rest passed : List Char} {mark after : Mark}
    (passes : Reader.Passes ⟨text ++ rest, mark⟩ passed ⟨rest, after⟩) : after = mark.past text := by
  have whole : text ++ rest = passed ++ rest := passes.1
  rw [List.append_cancel_right whole]
  exact passes.2

theorem textRun_past {openers : List (List Char)} {text rest run : List Char} {mark after : Mark}
    (read : textRun openers 0 0 mark (text ++ rest) = (run, ⟨rest, after⟩)) :
    after = mark.past text := by
  obtain ⟨passed, passes⟩ := textRun_passes openers 0 0 mark (text ++ rest)
  rw [read] at passes
  exact passes.past

variable {delimiters : Delimiters}

/-- The empty comment of a seam leaves nothing. -/
theorem scan_seam (apart : OpenersApart (openersOf delimiters)) {c : Char} {close : List Char}
    (closes : delimiters.commentClose.toList = c :: close) (visible : Text.isBlank c = false)
    (rest : List Char) (mark : Mark) :
    scan delimiters false ⟨delimiters.commentOpen.toList ++
        ('-' :: ' ' :: delimiters.commentClose.toList ++ rest), mark⟩ =
      scan delimiters false ⟨rest, mark.past (delimiters.commentOpen.toList ++
        '-' :: ' ' :: delimiters.commentClose.toList)⟩ := by
  obtain ⟨after, skipped⟩ := skipComment_seam closes visible mark rest
  obtain ⟨passed, passes⟩ := skipComment_passes (List.prefix_append _ _) skipped
  have mark' : after = mark.past (delimiters.commentOpen.toList ++
      '-' :: ' ' :: delimiters.commentClose.toList) :=
    Reader.Passes.past (by rw [List.append_assoc]; exact passes)
  rw [scan_tag apart (by simp [openersOf, Delimiters.openers])
    (by rw [Lexer.tagOrComment, if_pos rfl, skipped]; rfl), mark']
  cases scan delimiters false ⟨rest, mark.past _⟩ <;> rfl

/-- A text before a tag reads as one token, and the tag is still to read. -/
theorem scan_escapeText (apart : OpenersApart (openersOf delimiters)) {c : Char}
    {close : List Char} (closes : delimiters.commentClose.toList = c :: close)
    (visible : Text.isBlank c = false) {opener : List Char}
    (tag : opener = delimiters.expressionOpen.toList ∨ opener = delimiters.blockOpen.toList)
    (content : String) (rest : List Char) (mark : Mark) :
    scan delimiters false ⟨(escapeText delimiters content true).toList ++ (opener ++ ' ' :: rest),
        mark⟩ =
      (scan delimiters false ⟨opener ++ ' ' :: rest,
        mark.past (escapeText delimiters content true).toList⟩).map
          (runTokens content.toList mark ++ ·) := by
  let escaped := escapeRun (openersOf delimiters) 0 0 content.toList
  have member : opener ∈ openersOf delimiters := by
    rcases tag with rfl | rfl <;> simp [openersOf, Delimiters.openers]
  cases joins : joinsNextTag delimiters (openersOf delimiters) escaped with
  | false =>
      have spelled : (escapeText delimiters content true).toList =
          escaped ++ trailingSlashes escaped := by
        rw [escapeText_toList, if_neg (by simpa only [Bool.not_eq_true] using joins)]
      have separate := not_crosses_of_not_joins apart joins tag rest
      have plain : trimmedRun (openersOf delimiters) content.toList (opener ++ ' ' :: rest) =
          content.toList := by
        have found : opener? (openersOf delimiters) (opener ++ ' ' :: rest) = some opener :=
          apart.opener?_eq_some.mpr ⟨member, List.prefix_append _ _⟩
        simp [trimmedRun, found, startsWithMarker]
      obtain ⟨after, reads⟩ :=
        textRun_escapeRun_tag apart member mark content.toList (' ' :: rest) separate
      have reads : textRun (openersOf delimiters) 0 0 mark
          (escaped ++ trailingSlashes escaped ++ (opener ++ ' ' :: rest)) =
            (content.toList, ⟨opener ++ ' ' :: rest, after⟩) := by
        simpa only [escaped, List.append_assoc] using reads
      rw [spelled, scan_text apart member reads, textRun_past reads, plain]
  | true =>
      have spelled : (escapeText delimiters content true).toList = escaped ++ [' '] ++
          (delimiters.commentOpen.toList ++ '-' :: ' ' :: delimiters.commentClose.toList) := by
        rw [escapeText_toList, if_pos joins]
        simp [escaped, Canonical.seam]
      have comment : delimiters.commentOpen.toList ∈ openersOf delimiters := by
        simp [openersOf, Delimiters.openers]
      have trims : trimmedRun (openersOf delimiters) (content.toList ++ [' '])
          (delimiters.commentOpen.toList ++ ('-' :: ' ' ::
            delimiters.commentClose.toList ++ (opener ++ ' ' :: rest))) = content.toList := by
        have found : opener? (openersOf delimiters) (delimiters.commentOpen.toList ++ ('-' :: ' ' ::
            delimiters.commentClose.toList ++ (opener ++ ' ' :: rest))) =
              some delimiters.commentOpen.toList :=
          apart.opener?_eq_some.mpr ⟨comment, List.prefix_append _ _⟩
        obtain ⟨last, ends, seen⟩ := visible_end_of_joins apart joins
        rw [escapeRun_getLast?] at ends
        have kept : Text.trimEnd (content.toList ++ [' ']) = content.toList :=
          trimEnd_space (by simp [ends, seen])
        rw [trimmedRun, found]
        simp [startsWithMarker, kept]
      obtain ⟨after, reads⟩ := textRun_escapeRun_space apart comment mark content.toList
        ('-' :: ' ' :: delimiters.commentClose.toList ++ (opener ++ ' ' :: rest))
      have reads : textRun (openersOf delimiters) 0 0 mark (escaped ++ [' '] ++
          (delimiters.commentOpen.toList ++ ('-' :: ' ' :: delimiters.commentClose.toList ++
            (opener ++ ' ' :: rest)))) =
            (content.toList ++ [' '], ⟨delimiters.commentOpen.toList ++ ('-' :: ' ' ::
              delimiters.commentClose.toList ++ (opener ++ ' ' :: rest)), after⟩) := by
        simpa only [escaped, List.append_assoc, List.cons_append, List.nil_append] using reads
      have whole : (escapeText delimiters content true).toList ++ (opener ++ ' ' :: rest) =
          escaped ++ [' '] ++ (delimiters.commentOpen.toList ++ ('-' :: ' ' ::
            delimiters.commentClose.toList ++ (opener ++ ' ' :: rest))) := by
        rw [spelled]
        simp only [List.append_assoc, List.cons_append]
      have past : (mark.past (escaped ++ [' '])).past (delimiters.commentOpen.toList ++
          '-' :: ' ' :: delimiters.commentClose.toList) =
            mark.past (escapeText delimiters content true).toList := by
        rw [spelled, Mark.past, Mark.past, Mark.past, ← List.foldl_append]
      rw [whole, scan_text apart comment reads, trims, textRun_past reads,
        scan_seam apart closes visible, past]

end Lexer

namespace Lexer.Emits

variable {delimiters : Delimiters}

/-- A text that ends the template reads as itself. -/
theorem escapeText_end (apart : OpenersApart (openersOf delimiters)) (content : String) :
    Emits delimiters (escapeText delimiters content false).toList []
      (runLexemes content.toList) := by
  have spelled : (escapeText delimiters content false).toList =
      escapeRun (openersOf delimiters) 0 0 content.toList := by
    simp [escapeText, openersOf]
  rw [spelled]
  exact Emits.textEnd apart fun mark => textRun_escapeRun_end apart mark content.toList

/-- A text before a tag reads as itself, and the tag is still to read. -/
theorem escapeText_tag (apart : OpenersApart (openersOf delimiters)) {c : Char}
    {close : List Char} (closes : delimiters.commentClose.toList = c :: close)
    (visible : Text.isBlank c = false) {opener rest : List Char}
    (tag : opener = delimiters.expressionOpen.toList ∨ opener = delimiters.blockOpen.toList)
    (content : String) :
    Emits delimiters (escapeText delimiters content true).toList (opener ++ ' ' :: rest)
      (runLexemes content.toList) :=
  fun mark => ⟨_, _, runTokens_lexemes _ mark,
    scan_escapeText apart closes visible tag content rest mark⟩

end Lexer.Emits

end Templating
