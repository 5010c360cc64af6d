import Templating.Proofs.Lexer.Displaced
import Templating.Proofs.Lexer.Turns

/-!
Reading composes at the end of a tag. What stands behind a source that ends with a tag is read as it
is read by itself, displaced by the extent of the source, and stops for the same cause if it stops.
-/

namespace Templating

namespace Mark

variable {mark : Mark} {text other rest more : List Char}

theorem past_byteOffset_lt (mark : Mark) (something : text ≠ []) :
    mark.byteOffset < (mark.past text).byteOffset := by
  have step (mark : Mark) (c : Char) : mark.byteOffset < (mark.step c).byteOffset := by
    have positive := c.utf8Size_pos
    unfold Mark.step
    split <;> simp [positive]
  induction text generalizing mark with
  | nil => exact absurd rfl something
  | cons c text ih =>
      cases text with
      | nil => exact step mark c
      | cons d text => exact (step mark c).trans (ih (mark.step c) (List.cons_ne_nil d text))

/-- Two starts of one text that reach the same place are the same. -/
theorem past_inj (split : text ++ rest = other ++ more) (same : mark.past text = mark.past other) :
    text = other := by
  have shorter {text other : List Char} (starts : text <+: other)
      (same : mark.past text = mark.past other) : text = other := by
    obtain ⟨extra, rfl⟩ := starts
    rw [Lexer.past_append] at same
    by_contra different
    have something : extra ≠ [] := fun empty => different (by simp [empty])
    have less := past_byteOffset_lt (mark.past text) something
    rw [← same] at less
    exact Nat.lt_irrefl _ less
  have starts : text <+: other ++ more := ⟨rest, split⟩
  obtain below | above := List.prefix_or_prefix_of_prefix starts (List.prefix_append other more)
  · exact shorter below same
  · exact (shorter above same.symm).symm

end Mark

namespace Lexer

variable {text : List Char} {mark : Mark}

/-- The tokens of a tag are its delimiters and what stands between them, with no further opening
delimiter. If the tag trims what follows, it has a hyphen of its own before its closing delimiter. -/
theorem tag_closes {openKind closeKind : TokenKind} {opener close : List Char} {budget : Nat}
    {tokens : List Token} {trims : Bool} {after : Reader}
    (read : tag openKind closeKind opener close budget ⟨opener ++ text, mark⟩ =
      .ok (tokens, trims, after)) :
    ∃ others inside, tokens = ⟨openKind, String.ofList opener, mark⟩ :: others ++
        [⟨closeKind, String.ofList close, mark.past (opener ++ inside)⟩] ∧
      (∀ token ∈ others, token.kind.opensTag = false) ∧
      Reader.Passes ⟨opener ++ text, mark⟩ (opener ++ inside ++ close) after ∧
      (trims = true → ∃ front, front ≠ [] ∧ inside = front ++ ['-']) := by
  simp only [tag, lexemeToken_append] at read
  obtain ⟨⟨rest, ends⟩, inner, same⟩ := Outcome.bind_eq_ok.mp read
  cases same
  obtain ⟨others, passed, rfl, noOpener, passes, trimmed⟩ := tagTokens_closes inner
  obtain ⟨marker, either, marked⟩ := passes_skipMarker ⟨text, mark.past opener⟩
  have opened : Reader.Passes ⟨opener ++ text, mark⟩ opener ⟨text, mark.past opener⟩ := ⟨rfl, rfl⟩
  refine ⟨others, marker ++ passed, ?_, noOpener, by simpa using opened.trans (marked.trans passes), ?_⟩
  · rw [past_append, past_append, ← marked.2]
    rfl
  · intro trims
    obtain ⟨front, rfl⟩ := List.getLast?_eq_some_iff.mp (trimmed trims)
    refine ⟨marker ++ front, fun empty => ?_, (List.append_assoc _ _ _).symm⟩
    obtain ⟨rfl, rfl⟩ := List.append_eq_nil_iff.mp empty
    -- A hyphen right behind the opening delimiter belongs to that, so it is taken already.
    have begins : text = '-' :: (close ++ after.rest) := marked.1.trans passes.1
    have lengths := marked.length
    rw [begins] at lengths
    simp [Reader.skipMarker, startsWithMarker, Reader.skip] at lengths

/-- The last of these tokens closes a tag here: so much text stands before it, and so much behind it.
If nothing does and the tag trims what follows, then a hyphen that no opening delimiter has stands
before it. -/
structure ClosesAt (reader after : Reader) (onwards : Bool) (before : List Token) (closing : Token)
    (passed behind : List Char) : Prop where
  passes : reader.Passes (passed ++ closing.value.toList ++ behind) after
  mark : closing.mark = reader.mark.past passed
  trims : behind = [] → onwards = true → passed.getLast? = some '-' ∧
    ∀ opening ∈ before.getLast?, opening.kind.opensTag = true →
      opening.mark.past opening.value.toList ≠ reader.mark.past passed.dropLast

theorem ClosesAt.later {first reader after : Reader} {onwards : Bool} {before : List Token}
    {closing : Token} {passed behind : List Char}
    (closes : ClosesAt reader after onwards before closing passed behind) (something : before ≠ [])
    {taken : List Char} (passes : first.Passes taken reader) (tokens : List Token) :
    ClosesAt first after onwards (tokens ++ before) closing (taken ++ passed) behind where
  passes := by simpa using passes.trans closes.passes
  mark := by rw [closes.mark, past_append, ← passes.2]
  trims := by
    intro nothing trims
    obtain ⟨hyphen, apart⟩ := closes.trims nothing trims
    have nonempty : passed ≠ [] := by
      rintro rfl
      cases hyphen
    refine ⟨by simp [hyphen], fun opening last opens => ?_⟩
    rw [List.dropLast_append_of_ne_nil nonempty, past_append, ← passes.2]
    exact apart opening (by simpa [List.getLast?_append_of_ne_nil, something] using last) opens

theorem textToken_kind (openers : List (List Char)) (trims : Bool) (reader : Reader) :
    ∀ token ∈ (textToken openers trims reader).1, token.kind = .text := by
  simp only [textToken]
  split <;> simp

theorem Turn.closesAt {trims onwards : Bool} {reader after : Reader} {tokens before : List Token}
    {closing : Token} (turn : Turn trims reader tokens onwards after)
    (last : tokens = before ++ [closing]) (closes : closing.kind.closesTag = true) :
    ∃ passed, before ≠ [] ∧ ClosesAt reader after onwards before closing passed [] := by
  obtain @⟨opener, texts, tags, start, after, onwards, text, found, read⟩ := turn
  obtain ⟨taken, passesText⟩ := textToken_passes (openersOf {}) trims reader
  have kinds := textToken_kind (openersOf {}) trims reader
  rw [text] at passesText kinds
  obtain ⟨next, opened⟩ := prefix_of_opener? found
  obtain ⟨rest, place⟩ := start
  dsimp only at opened
  subst opened
  have comment : tags ≠ [] := by
    rintro rfl
    rw [List.append_nil] at last
    rw [kinds closing (last ▸ List.mem_concat_self)] at closes
    cases closes
  have whole : ∃ openKind closeKind close others inside,
      tags = ⟨openKind, String.ofList opener, place⟩ :: others ++
        [⟨closeKind, String.ofList close, place.past (opener ++ inside)⟩] ∧
      (∀ token ∈ others, token.kind.opensTag = false) ∧
      Reader.Passes ⟨opener ++ next, place⟩ (opener ++ inside ++ close) after ∧
      (onwards = true → ∃ front, front ≠ [] ∧ inside = front ++ ['-']) := by
    unfold tagOrComment at read
    split at read
    · obtain ⟨_, _, same⟩ := Outcome.map_eq_ok.mp read
      cases same
      exact absurd rfl comment
    · split at read
      · exact ⟨_, _, _, tag_closes read⟩
      · exact ⟨_, _, _, tag_closes read⟩
  obtain ⟨openKind, closeKind, close, others, inside, rfl, noOpener, passesTag, trimmed⟩ := whole
  rw [← List.append_assoc] at last
  obtain ⟨rfl, same⟩ := List.append_inj' last rfl
  cases same
  have passes := passesText.trans passesTag
  have reached : place = reader.mark.past taken := passesText.2
  refine ⟨taken ++ (opener ++ inside), by simp, by simpa using passes, ?_, ?_⟩
  · rw [past_append reader.mark, ← reached]
  · intro _ trims
    obtain ⟨front, something, rfl⟩ := trimmed trims
    refine ⟨by simp, fun opening last opens same => ?_⟩
    obtain rfl | ⟨others, final, rfl⟩ := others.eq_nil_or_concat'
    · have only : opening = ⟨openKind, String.ofList opener, place⟩ := by simpa using last.symm
      have less := Mark.past_byteOffset_lt (place.past opener) something
      rw [← List.append_assoc, ← List.append_assoc, List.dropLast_concat, past_append, past_append,
        ← reached, only, String.toList_ofList] at same
      rw [← same] at less
      exact Nat.lt_irrefl _ less
    · have only : opening = final := by simpa [List.getLast?_cons] using last.symm
      rw [only, noOpener final List.mem_concat_self] at opens
      cases opens

/-- The last token of some turns, if it closes a tag, does so in the last turn or in one before
comments. -/
theorem ComesTo.closesAt {trims onwards : Bool} {reader after : Reader} {tokens before : List Token}
    {closing : Token} (comes : ComesTo trims reader tokens onwards after)
    (last : tokens = before ++ [closing]) (closes : closing.kind.closesTag = true) :
    ∃ passed behind, ClosesAt reader after onwards before closing passed behind := by
  induction comes generalizing before with
  | none => simp at last
  | @turn tokens these between onwards start after comes turn ih =>
      obtain ⟨taken, passes, _⟩ := comes.anywhere
      obtain rfl | ⟨front, final, rfl⟩ := these.eq_nil_or_concat'
      · obtain ⟨passed, behind, closed⟩ := ih (by simpa using last)
        obtain ⟨more, passesTurn, _⟩ := turn.anywhere
        exact ⟨passed, behind ++ (more ++ ['\x7d']),
          by simpa using closed.passes.trans passesTurn, closed.mark, by simp⟩
      · rw [← List.append_assoc] at last
        obtain ⟨rfl, same⟩ := List.append_inj' last rfl
        cases same
        obtain ⟨passed, something, closed⟩ := turn.closesAt rfl closes
        exact ⟨_, _, closed.later something passes tokens⟩

/-- The source ends with this token, which closes a tag and does not trim what follows: a hyphen right
before it is that of the opening delimiter right before the hyphen. -/
structure EndsWithTag (source : List Char) (before : List Token) (closing : Token)
    (head : List Char) : Prop where
  spelled : source = head ++ closing.value.toList
  closes : closing.kind.closesTag = true
  mark : closing.mark = .behind head
  untrimmed : head.getLast? = some '-' → ∃ opening ∈ before.getLast?,
    opening.kind.opensTag = true ∧ opening.mark.past opening.value.toList = .behind head.dropLast

theorem textToken_cases (openers : List (List Char)) (trims : Bool) (reader : Reader) :
    (textToken openers trims reader).1 = [] ∨
      ∃ token, (textToken openers trims reader).1 = [token] ∧ token.kind = .text := by
  simp only [textToken]
  split <;> simp

/-- A source that ends with a tag is read in turns to its end. -/
theorem EndsWithTag.comesTo {source head : List Char} {before : List Token} {closing ending : Token}
    (ends : EndsWithTag source before closing head)
    (read : scan {} false ⟨source, {}⟩ = .ok (before ++ [closing, ending])) :
    ComesTo false ⟨source, {}⟩ (before ++ [closing]) false ⟨[], .behind source⟩ := by
  obtain ⟨tokens, onwards, after, mark, comes, same⟩ := ComesTo.of_scan read
  have last : tokens = before ++ [closing] := by
    obtain empty | ⟨token, single, text⟩ := textToken_cases (openersOf {}) onwards after
    · rw [empty, List.append_cons before] at same
      exact (List.append_inj' same rfl).1.symm
    · rw [single] at same
      cases (List.append_inj' same rfl).2
      have closes := ends.closes
      rw [text] at closes
      cases closes
  subst last
  obtain ⟨passed, behind, passes, reached, trims⟩ := comes.closesAt rfl ends.closes
  have whole : passed ++ (closing.value.toList ++ (behind ++ after.rest)) =
      head ++ closing.value.toList := by
    rw [← ends.spelled]
    simpa using passes.1.symm
  have same : Mark.past {} passed = Mark.past {} head := by
    rw [Mark.past_start head, ← ends.mark]
    exact reached.symm
  obtain rfl := Mark.past_inj whole same
  obtain ⟨rfl, rest⟩ : behind = [] ∧ after.rest = [] := by simpa using whole
  have plain : onwards = false := by
    rw [← Bool.not_eq_true]
    intro trimmed
    obtain ⟨hyphen, apart⟩ := trims rfl trimmed
    obtain ⟨opening, previous, opens, stands⟩ := ends.untrimmed hyphen
    rw [← Mark.past_start] at stands
    exact apart opening previous opens stands
  have final : after = ⟨[], .behind source⟩ := by
    have mark := passes.2
    rw [List.append_nil, ← ends.spelled, Mark.past_start] at mark
    exact Reader.mk.injEq .. ▸ ⟨rest, mark⟩
  subst plain final
  exact comes

end Lexer

/-- The place of a position when the text that it is in starts at `origin`. -/
def Position.displace (origin : Mark) (position : Position) : Position :=
  { position with mark := origin.displace position.mark }

open Lexer Canonical

/-- What stands behind a source that ends with a tag reads as by itself, displaced by the extent of the
source. If it does not read by itself, the whole fails for the same cause, at the displaced place. -/
theorem tokenize_append {name source rest : String} {before : List Token} {closing ending : Token}
    {head : List Char} (ends : EndsWithTag source.toList before closing head)
    (read : tokenize {} name source = .ok (before ++ [closing, ending])) :
    (∀ tokens, tokenize {} name rest = .ok tokens → tokenize {} name (source ++ rest) =
      .ok (before ++ [closing] ++ tokens.map (.displace (.behind source.toList)))) ∧
    ∀ fault, tokenize {} name rest = .error fault → ∃ moved,
      tokenize {} name (source ++ rest) = .error moved ∧ moved.cause = fault.cause ∧
        moved.position = fault.position.map (.displace (.behind source.toList)) := by
  have comes := ends.comesTo (tokenize_eq_ok.mp read)
  obtain ⟨passed, passes, elsewhere⟩ := comes.anywhere
  obtain rfl : source.toList = passed := by simpa using passes.1
  have reads := (elsewhere rest.toList).scan_eq
  have start : Reader.Displaced (.behind source.toList) ⟨rest.toList, {}⟩
      ⟨rest.toList, .behind source.toList⟩ := ⟨rfl, Mark.displaced_start _⟩
  have alike := scan_alike {} false start
  rw [tokenize, tokenize, tokens_eq_scan, tokens_eq_scan, String.toList_append, reads]
  generalize scan {} false ⟨rest.toList, {}⟩ = alone at alike
  generalize scan {} false ⟨rest.toList, .behind source.toList⟩ = behind at alike
  cases alike with
  | ok same =>
      subst same
      simp
  | @error stop moved failures =>
      obtain ⟨cause, place⟩ := stop
      obtain ⟨sameCause, samePlace⟩ := moved
      obtain ⟨rfl, rfl⟩ : sameCause = cause ∧ samePlace = _ := failures
      constructor
      · intro tokens read
        cases read
      · intro fault failed
        cases failed
        exact ⟨_, rfl, rfl, rfl⟩

/-- An output on the second line, before text with another output and before an open tag. -/
theorem tokenize_append_output :
    let source := "H\n\x7b\x7b x \x7d\x7d"
    let before : List Token := [⟨.text, "H\n", {}⟩, ⟨.expressionOpen, "\x7b\x7b", ⟨2, 1, 2⟩⟩,
      ⟨.identifier, "x", ⟨2, 4, 5⟩⟩]
    let closing : Token := ⟨.expressionClose, "\x7d\x7d", ⟨2, 6, 7⟩⟩
    EndsWithTag source.toList before closing "H\n\x7b\x7b x ".toList ∧
      tokenize {} "page" source = .ok (before ++ [closing, ⟨.endOfInput, "", ⟨2, 8, 9⟩⟩]) ∧
      (∃ tokens, tokenize {} "page" "!\x7b\x7b y \x7d\x7d" = .ok tokens ∧
        tokenize {} "page" (source ++ "!\x7b\x7b y \x7d\x7d") =
          .ok (before ++ [closing] ++ tokens.map (.displace (.behind source.toList)))) ∧
      ∃ fault moved, tokenize {} "page" "!\x7b\x7b y" = .error fault ∧
        tokenize {} "page" (source ++ "!\x7b\x7b y") = .error moved ∧ moved.cause = fault.cause ∧
          moved.position = fault.position.map (.displace (.behind source.toList)) := by
  intro source before closing
  have ends : EndsWithTag source.toList before closing "H\n\x7b\x7b x ".toList :=
    ⟨by decide, rfl, by decide, by simp⟩
  have read : tokenize {} "page" source = .ok (before ++ [closing, ⟨.endOfInput, "", ⟨2, 8, 9⟩⟩]) := by
    cbv
  have reads : ∃ tokens, tokenize {} "page" "!\x7b\x7b y \x7d\x7d" = .ok tokens := ⟨_, by cbv⟩
  have fails : ∃ fault, tokenize {} "page" "!\x7b\x7b y" = .error fault := ⟨_, by cbv⟩
  obtain ⟨tokens, readRest⟩ := reads
  obtain ⟨fault, failed⟩ := fails
  obtain ⟨moved, stops⟩ := (tokenize_append ends read).2 fault failed
  exact ⟨ends, read, ⟨tokens, readRest, (tokenize_append ends read).1 tokens readRest⟩,
    fault, moved, failed, stops⟩

end Templating
