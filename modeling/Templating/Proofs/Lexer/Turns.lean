import Templating.Proofs.Canonical.EscapedText
import Templating.Proofs.Lexer.Boundaries

/-!
A template is read in turns, each of which takes some text and the tag or comment behind it. A turn is
decided by what it takes, so it is the same wherever that stands, and whatever stands behind it.
-/

namespace Templating.Lexer

variable {text left rest : List Char} {mark place : Mark} {c : Char}

theorem openersOf_usual :
    openersOf {} = [['\x7b', '\x7b'], ['\x7b', '%'], ['\x7b', '#']] :=
  rfl

theorem opener_length {opener : List Char} (member : opener ∈ openersOf {}) : opener.length = 2 := by
  simp only [openersOf_usual, List.mem_cons, List.not_mem_nil, or_false] at member
  obtain rfl | rfl | rfl := member <;> rfl

/-- Two characters tell whether an opener comes next. -/
theorem opener?_two (first second : Char) (rest : List Char) :
    opener? (openersOf {}) (first :: second :: rest) = opener? (openersOf {}) [first, second] := by
  simp [opener?, openersOf_usual, List.find?_cons, List.isPrefixOf]

theorem opener?_plain (brace : c ≠ '\x7b') (rest : List Char) :
    opener? (openersOf {}) (c :: rest) = none := by
  simp [opener?, openersOf_usual, List.isPrefixOf, brace.symm]

/-- What reading a text up to a character comes to, whatever stands behind that: it stops before, at
an opener, or it takes the character and goes on. -/
inductive RunsTo (c : Char) (slashes literal : Nat) (mark : Mark) (text : List Char) : Prop where
  | stops (run left : List Char) (place : Mark)
      (reads : ∀ rest, textRun (openersOf {}) slashes literal mark (text ++ c :: rest) =
        (run, ⟨left ++ c :: rest, place⟩))
  | passes (run : List Char)
      (reads : ∀ rest, textRun (openersOf {}) slashes literal mark (text ++ c :: rest) =
        precede (run ++ [c]) (textRun (openersOf {}) 0 0 (mark.past (text ++ [c])) rest))

theorem RunsTo.step {d : Char} {slashes literal before inside : Nat}
    (runs : RunsTo c slashes literal (mark.step d) text) (start : List Char)
    (first : ∀ rest, textRun (openersOf {}) before inside mark (d :: text ++ c :: rest) =
      precede start (textRun (openersOf {}) slashes literal (mark.step d) (text ++ c :: rest))) :
    RunsTo c before inside mark (d :: text) := by
  cases runs with
  | stops run left place reads => exact .stops (start ++ run) left place fun rest => by rw [first, reads]; rfl
  | passes run reads =>
      refine .passes (start ++ run) fun rest => ?_
      rw [first, reads, precede_precede, ← List.append_assoc]
      rfl

theorem textRun_runsTo (brace : c ≠ '\x7b') (slash : c ≠ '\\') (text : List Char) (slashes : Nat)
    {literal : Nat} (short : literal ≤ 1) (mark : Mark) : RunsTo c slashes literal mark text := by
  induction text generalizing slashes literal mark with
  | nil =>
      by_cases inside : literal = 0
      · refine .passes (List.replicate slashes '\\') fun rest => ?_
        simp [textRun, inside, slash, opener?_plain brace, Mark.past]
      · have last : literal - 1 = 0 := by omega
        refine .passes [] fun rest => ?_
        simp [textRun, inside, last, Mark.past]
  | cons d text ih =>
      by_cases inside : literal = 0
      · subst inside
        by_cases escape : d = '\\'
        · refine (ih (slashes + 1) (Nat.zero_le 1) _).step [] fun rest => ?_
          simp [textRun, escape, precede]
        -- The character behind the first one belongs to the text too, so the text tells the opener.
        obtain ⟨next, others, spelled⟩ : ∃ next others, ∀ rest, text ++ c :: rest = next :: (others ++ rest) := by
          cases text with
          | nil => exact ⟨c, [], fun rest => rfl⟩
          | cons next others => exact ⟨next, others ++ [c], fun rest => by simp⟩
        have tells (rest : List Char) : opener? (openersOf {}) (d :: (text ++ c :: rest)) =
            opener? (openersOf {}) [d, next] := by
          rw [spelled, opener?_two]
        cases found : opener? (openersOf {}) [d, next] with
        | none =>
            refine (ih 0 (Nat.zero_le 1) _).step (List.replicate slashes '\\' ++ [d]) fun rest => ?_
            simp [textRun, escape, tells, found]
        | some opener =>
            have length := opener_length (mem_of_opener? found)
            by_cases odd : slashes % 2 = 1
            · refine (ih 0 (Nat.le_refl 1) _).step (List.replicate (slashes / 2) '\\' ++ [d]) fun rest => ?_
              simp [textRun, escape, tells, found, odd, length]
            · refine .stops (List.replicate (slashes / 2) '\\') (d :: text) mark fun rest => ?_
              simp [textRun, escape, tells, found, odd]
      · refine (ih 0 (by omega : literal - 1 ≤ 1) _).step [d] fun rest => ?_
        simp [textRun, inside]

/-- Blanks before a character that is none end before it, whatever stands behind that. -/
theorem textStart_visible (visible : Text.isBlank c = false) (trims : Bool) (text : List Char)
    (mark : Mark) : ∃ white left, text = white ++ left ∧ ∀ rest,
      Reader.textStart ⟨text ++ c :: rest, mark⟩ trims = ⟨left ++ c :: rest, mark.past white⟩ := by
  cases trims with
  | false => exact ⟨[], text, rfl, fun rest => rfl⟩
  | true =>
      induction text generalizing mark with
      | nil => exact ⟨[], [], rfl, fun rest => skipBlanks_eq_self visible⟩
      | cons d text ih =>
          by_cases blank : Text.isBlank d = true
          · obtain ⟨white, left, rfl, skips⟩ := ih (mark.step d)
            exact ⟨d :: white, left, rfl, fun rest => (skipBlanks_cons blank).trans (skips rest)⟩
          · exact ⟨[], d :: text, rfl, fun rest => skipBlanks_eq_self (by simpa using blank)⟩

theorem apart_usual : OpenersApart (openersOf {}) :=
  Delimiters.accepted_usual.openersApart (by simp [Delimiters.openers, Text.isBlank])

theorem textToken_eq {openers : List (List Char)} {trims : Bool} {reader after : Reader}
    {run : List Char} (read : textRun openers 0 0 (reader.textStart trims).mark
      (reader.textStart trims).rest = (run, after)) :
    textToken openers trims reader =
      (runTokens (trimmedRun openers run after.rest) (reader.textStart trims).mark, after) := by
  simp [textToken, read, runTokens]

theorem trimmedRun_opener {opener : List Char} (member : opener ∈ openersOf {}) (run next : List Char) :
    trimmedRun (openersOf {}) run (opener ++ next) =
      if startsWithMarker next then Text.trimEnd run else run := by
  have found := apart_usual.opener?_eq_some.mpr ⟨member, List.prefix_append opener next⟩
  simp [trimmedRun, found]

/-- A tag or comment is read up to a closing brace, whatever stands behind that. -/
theorem tagOrComment_elsewhere {opener : List Char} {tokens : List Token} {trims : Bool} {after : Reader}
    (member : opener ∈ openersOf {})
    (read : tagOrComment {} opener (opener ++ text).length ⟨opener ++ text, mark⟩ =
      .ok (tokens, trims, after)) :
    ∃ passed, text = passed ++ '\x7d' :: after.rest ∧
      Reader.Passes ⟨opener ++ text, mark⟩ (opener ++ (passed ++ ['\x7d'])) after ∧
      ∀ other, tagOrComment {} opener (opener ++ (passed ++ '\x7d' :: other)).length
        ⟨opener ++ (passed ++ '\x7d' :: other), mark⟩ = .ok (tokens, trims, ⟨other, after.mark⟩) := by
  have nonempty : opener ≠ [] := fun empty => apart_usual.nonempty (empty ▸ member)
  have budget {text : List Char} {one two : Nat} (enough : (opener ++ text).length ≤ one)
      (enoughOther : (opener ++ text).length ≤ two) :
      tagOrComment {} opener one ⟨opener ++ text, mark⟩ =
        tagOrComment {} opener two ⟨opener ++ text, mark⟩ :=
    tagOrComment_budget nonempty (List.prefix_append _ _) (Nat.le_succ_of_le enough)
      (Nat.le_succ_of_le enoughOther)
  obtain ⟨passed, rfl, _⟩ := tagOrComment_anywhere read
  refine ⟨passed, rfl, ?_, fun other => ?_⟩
  · obtain ⟨taken, passes⟩ := tagOrComment_passes (List.prefix_append _ _) read
    have split := passes.1
    rw [List.append_assoc, List.append_cancel_left_eq] at split
    have same : passed ++ ['\x7d'] = taken := List.append_cancel_right (by simpa using split)
    rw [same]
    exact passes
  · -- A budget for both texts is as good as that of either.
    let wide := (opener ++ (passed ++ '\x7d' :: after.rest)).length + other.length
    rw [budget (Nat.le_refl _) (Nat.le_add_right _ other.length : _ ≤ wide)] at read
    obtain ⟨again, same, reads⟩ := tagOrComment_anywhere read
    cases List.append_cancel_right_eq .. ▸ same
    rw [budget (Nat.le_refl _) (by simp [wide]; omega : _ ≤ wide)]
    exact reads other

/-- One turn reads the text up to an opener and the tag or comment there, and tells whether it trims
what follows. -/
inductive Turn (trims : Bool) (reader : Reader) : List Token → Bool → Reader → Prop where
  | read {opener : List Char} {texts tags : List Token} {start after : Reader} {onwards : Bool}
      (text : textToken (openersOf {}) trims reader = (texts, start))
      (found : opener? (openersOf {}) start.rest = some opener)
      (tag : tagOrComment {} opener start.rest.length start = .ok (tags, onwards, after)) :
      Turn trims reader (texts ++ tags) onwards after

namespace Turn

variable {trims onwards : Bool} {reader after : Reader} {tokens : List Token}

/-- A turn takes a text that ends in a brace, and takes it whatever stands behind. -/
theorem anywhere (turn : Turn trims reader tokens onwards after) :
    ∃ passed, reader.Passes (passed ++ ['\x7d']) after ∧ ∀ other,
      Turn trims ⟨passed ++ '\x7d' :: other, reader.mark⟩ tokens onwards ⟨other, after.mark⟩ := by
  obtain @⟨opener, texts, tags, start, after, onwards, text, found, tag⟩ := turn
  obtain ⟨before, passesText⟩ := textToken_passes (openersOf {}) trims reader
  rw [text] at passesText
  have member := mem_of_opener? found
  obtain ⟨next, opened⟩ := prefix_of_opener? found
  obtain ⟨rest, place⟩ := start
  dsimp only at opened
  subst opened
  obtain ⟨inside, rfl, passesTag, reads⟩ := tagOrComment_elsewhere member tag
  have passes := passesText.trans passesTag
  rw [← List.append_assoc, ← List.append_assoc] at passes
  refine ⟨before ++ opener ++ inside, by simpa using passes, fun other => ?_⟩
  obtain ⟨white, left, spelled, starts⟩ := textStart_visible (by decide : Text.isBlank '\x7d' = false)
    trims (before ++ opener ++ inside) reader.mark
  have whole : reader = ⟨before ++ opener ++ inside ++ '\x7d' :: after.rest, reader.mark⟩ := by
    obtain ⟨all, mark⟩ := reader
    simpa using passes.1
  rw [whole] at text
  obtain ⟨run, behind, stop, runs⟩ | ⟨run, runs⟩ := textRun_runsTo (by decide : '\x7d' ≠ '\x7b')
    (by decide) left 0 (Nat.zero_le 1) (reader.mark.past white)
  · rw [textToken_eq (by rw [starts, runs]), starts] at text
    simp only [Prod.mk.injEq, Reader.mk.injEq] at text
    obtain ⟨same, rest, rfl⟩ := text
    have stopped : behind = opener ++ inside := List.append_cancel_right (by simpa using rest)
    subst stopped
    have readsText : textToken (openersOf {}) trims
        ⟨before ++ opener ++ inside ++ '\x7d' :: other, reader.mark⟩ =
        (texts, ⟨opener ++ (inside ++ '\x7d' :: other), stop⟩) := by
      rw [textToken_eq (by rw [starts, runs]), starts, ← same]
      simp only [List.append_assoc, trimmedRun_opener member]
      cases inside <;> rfl
    exact .read readsText (apart_usual.opener?_eq_some.mpr ⟨member, List.prefix_append _ _⟩) (reads other)
  · -- Text that goes past the tag would leave less than the tag does.
    have ended : (textToken (openersOf {}) trims
        ⟨before ++ opener ++ inside ++ '\x7d' :: after.rest, reader.mark⟩).2.rest.length ≤
        after.rest.length := by
      obtain ⟨taken, passesRest⟩ := textRun_passes (openersOf {}) 0 0
        ((reader.mark.past white).past (left ++ ['\x7d'])) after.rest
      rw [textToken_eq (by rw [starts, runs])]
      have lengths := passesRest.length
      dsimp only [precede] at lengths ⊢
      omega
    rw [text] at ended
    simp at ended
    omega

/-- Reading everything starts with the turn and goes on behind it. -/
theorem scan_eq (turn : Turn trims reader tokens onwards after) :
    scan {} trims reader = (scan {} onwards after).map (tokens ++ ·) := by
  obtain ⟨passed, passes, _⟩ := turn.anywhere
  have shorter := passes.length
  obtain @⟨opener, texts, tags, start, after, onwards, text, found, tag⟩ := turn
  obtain ⟨before, passesText⟩ := textToken_passes (openersOf {}) trims reader
  rw [text] at passesText
  have lengths := passesText.length
  dsimp only at lengths
  have member := mem_of_opener? found
  have nonempty : opener ≠ [] := fun empty => apart_usual.nonempty (empty ▸ member)
  rw [List.length_append, List.length_singleton] at shorter
  obtain ⟨budget, enough⟩ : ∃ budget, reader.rest.length = budget + 1 :=
    ⟨reader.rest.length - 1, by omega⟩
  have sameTag : tagOrComment {} opener budget start = .ok (tags, onwards, after) := by
    rw [← tag]
    exact tagOrComment_budget nonempty (prefix_of_opener? found) (by omega) (Nat.le_succ _)
  have sameRest : tokensFrom {} (openersOf {}) budget onwards after = scan {} onwards after :=
    tokensFrom_eq_scan apart_usual (by omega)
  rw [scan, enough]
  simp only [tokensFrom, text, found, sameTag, Outcome.ok_bind, sameRest]
  rfl

/-- What can be read is read in a turn and then the rest, unless there is text only. -/
theorem of_scan (read : scan {} trims reader = .ok tokens) :
    (∃ mark, tokens = (textToken (openersOf {}) trims reader).1 ++ [⟨.endOfInput, "", mark⟩]) ∨
      ∃ these onwards after others, Turn trims reader these onwards after ∧
        scan {} onwards after = .ok others ∧ tokens = these ++ others := by
  rw [← tokensFrom_eq_scan apart_usual (Nat.le_succ _)] at read
  rcases text : textToken (openersOf {}) trims reader with ⟨texts, start⟩
  obtain ⟨before, passesText⟩ := textToken_passes (openersOf {}) trims reader
  rw [text] at passesText
  have lengths := passesText.length
  dsimp only at lengths
  simp only [tokensFrom, text] at read
  split at read
  case h_1 =>
    cases read
    exact .inl ⟨_, rfl⟩
  case h_2 opener found =>
    have nonempty : opener ≠ [] := fun empty => apart_usual.nonempty (empty ▸ mem_of_opener? found)
    obtain ⟨⟨tags, onwards, after⟩, tag, more⟩ := Outcome.bind_eq_ok.mp read
    obtain ⟨others, rest, same⟩ := Outcome.bind_eq_ok.mp more
    cases same
    rw [tagOrComment_budget nonempty (prefix_of_opener? found) (by omega)
      (Nat.le_succ start.rest.length)] at tag
    have turn : Turn trims reader (texts ++ tags) onwards after := .read text found tag
    obtain ⟨passed, passes, _⟩ := turn.anywhere
    have shorter := passes.length
    rw [List.length_append] at shorter
    rw [tokensFrom_eq_scan apart_usual (by dsimp only; omega)] at rest
    exact .inr ⟨_, _, _, others, turn, rest, rfl⟩

end Turn

/-- Some turns, one behind the other. -/
inductive ComesTo (trims : Bool) (reader : Reader) : List Token → Bool → Reader → Prop where
  | none : ComesTo trims reader [] trims reader
  | turn {tokens these : List Token} {between onwards : Bool} {start after : Reader}
      (before : ComesTo trims reader tokens between start) (turn : Turn between start these onwards after) :
      ComesTo trims reader (tokens ++ these) onwards after

namespace ComesTo

variable {trims onwards : Bool} {reader after : Reader} {tokens : List Token}

theorem anywhere (comes : ComesTo trims reader tokens onwards after) :
    ∃ passed, reader.Passes passed after ∧
      ∀ other, ComesTo trims ⟨passed ++ other, reader.mark⟩ tokens onwards ⟨other, after.mark⟩ := by
  induction comes with
  | none => exact ⟨[], reader.passes_nil, fun other => .none⟩
  | turn _ turn ih =>
      obtain ⟨before, passes, comes⟩ := ih
      obtain ⟨passed, passesTurn, turns⟩ := turn.anywhere
      refine ⟨before ++ (passed ++ ['\x7d']), passes.trans passesTurn, fun other => ?_⟩
      simpa using (comes (passed ++ '\x7d' :: other)).turn (turns other)

theorem scan_eq (comes : ComesTo trims reader tokens onwards after) :
    scan {} trims reader = (scan {} onwards after).map (tokens ++ ·) := by
  induction comes with
  | none => cases scan {} trims reader <;> rfl
  | turn _ turn ih =>
      rw [ih, turn.scan_eq, Outcome.map_map]
      simp only [List.append_assoc]

theorem ofTurn {these : List Token} {between : Bool} {start : Reader}
    (turn : Turn trims reader these between start) (comes : ComesTo between start tokens onwards after) :
    ComesTo trims reader (these ++ tokens) onwards after := by
  induction comes with
  | none => simpa using ComesTo.none.turn turn
  | turn _ next ih => simpa using ih.turn next

/-- What can be read is read in turns, until there is text only. -/
theorem of_scan {trims : Bool} {reader : Reader} {tokens : List Token}
    (read : scan {} trims reader = .ok tokens) :
    ∃ these onwards after mark, ComesTo trims reader these onwards after ∧
      tokens = these ++ ((textToken (openersOf {}) onwards after).1 ++ [⟨.endOfInput, "", mark⟩]) := by
  obtain ⟨mark, rfl⟩ | ⟨these, onwards, after, others, turn, rest, rfl⟩ := Turn.of_scan read
  · exact ⟨[], trims, reader, mark, .none, rfl⟩
  · have shorter : after.rest.length < reader.rest.length := by
      obtain ⟨passed, passes, _⟩ := turn.anywhere
      have lengths := passes.length
      rw [List.length_append, List.length_singleton] at lengths
      omega
    obtain ⟨further, last, final, mark, comes, rfl⟩ := of_scan rest
    exact ⟨these ++ further, last, final, mark, .ofTurn turn comes, (List.append_assoc _ _ _).symm⟩
termination_by reader.rest.length

end ComesTo

end Templating.Lexer
