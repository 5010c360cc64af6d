import Mathlib.Data.List.Basic
import Templating.Proofs.Outcome
import Templating.Token.Lexer

/-!
Reading moves forward. What a step reads stands between two readers, so marks and the rest of the
text never part; a token takes at least one character, so a budget that covers the text left is as
good as any other.
-/

namespace Templating.Lexer

/-- The second reader stands right behind this text of the first. -/
def Reader.Passes (reader : Reader) (text : List Char) (after : Reader) : Prop :=
  reader.rest = text ++ after.rest ∧ after.mark = reader.mark.past text

namespace Reader

theorem passes_nil (reader : Reader) : reader.Passes [] reader :=
  ⟨rfl, rfl⟩

theorem Passes.trans {first second third : Reader} {left right : List Char}
    (passed : first.Passes left second) (next : second.Passes right third) :
    first.Passes (left ++ right) third := by
  refine ⟨?_, ?_⟩
  · rw [passed.1, next.1, List.append_assoc]
  · rw [next.2, passed.2, Mark.past, Mark.past, Mark.past, List.foldl_append]

theorem passes_skip (reader : Reader) (count : Nat) :
    reader.Passes (reader.rest.take count) (reader.skip count) :=
  ⟨(List.take_append_drop count reader.rest).symm, rfl⟩

theorem passes_of_isPrefix {reader : Reader} {text : List Char} (starts : text <+: reader.rest) :
    reader.Passes text (reader.skip text.length) := by
  have taken : reader.rest.take text.length = text := (List.prefix_iff_eq_take.mp starts).symm
  simpa only [taken] using reader.passes_skip text.length

theorem passes_marker (reader : Reader) :
    ∃ passed, reader.Passes passed reader.skipMarker := by
  unfold skipMarker
  split
  · exact ⟨_, reader.passes_skip 1⟩
  · exact ⟨[], reader.passes_nil⟩

theorem passes_skipBlanks (reader : Reader) :
    reader.Passes (reader.rest.takeWhile Text.isBlank) reader.skipBlanks :=
  passes_of_isPrefix (List.takeWhile_prefix _)

theorem passes_textStart (reader : Reader) (trims : Bool) :
    ∃ passed, reader.Passes passed (reader.textStart trims) := by
  unfold textStart
  split
  · exact ⟨_, reader.passes_skipBlanks⟩
  · exact ⟨[], reader.passes_nil⟩

theorem Passes.length {reader after : Reader} {text : List Char}
    (passed : reader.Passes text after) :
    text.length + after.rest.length = reader.rest.length := by
  rw [passed.1, List.length_append]

theorem skipBlanks_length (reader : Reader) :
    reader.skipBlanks.rest.length ≤ reader.rest.length := by
  have lengths := reader.passes_skipBlanks.length
  omega

end Reader

theorem mem_of_opener? {openers : List (List Char)} {text opener : List Char}
    (found : opener? openers text = some opener) : opener ∈ openers :=
  List.mem_of_find?_eq_some found

theorem prefix_of_opener? {openers : List (List Char)} {text opener : List Char}
    (found : opener? openers text = some opener) : opener <+: text :=
  List.isPrefixOf_iff_prefix.mp
    (List.find?_some (p := fun opener : List Char => opener.isPrefixOf text) found)

theorem opener?_nil {openers : List (List Char)} (nonempty : [] ∉ openers) :
    opener? openers [] = none := by
  apply List.find?_eq_none.mpr
  intro opener member
  cases opener with
  | nil => exact absurd member nonempty
  | cons c rest => simp

theorem textRun_passes (openers : List (List Char)) (slashes literal : Nat) (mark : Mark)
    (text : List Char) :
    ∃ passed, Reader.Passes ⟨text, mark⟩ passed (textRun openers slashes literal mark text).2 := by
  induction text generalizing slashes literal mark with
  | nil => exact ⟨[], rfl, rfl⟩
  | cons c rest ih =>
      have step : Reader.Passes ⟨c :: rest, mark⟩ [c] ⟨rest, mark.step c⟩ := ⟨rfl, rfl⟩
      have onwards : ∀ slashes literal, ∃ passed, Reader.Passes ⟨c :: rest, mark⟩ passed
          (textRun openers slashes literal (mark.step c) rest).2 := by
        intro slashes literal
        obtain ⟨passed, passes⟩ := ih slashes literal (mark.step c)
        exact ⟨[c] ++ passed, step.trans passes⟩
      unfold textRun
      split
      · exact onwards 0 (literal - 1)
      · split
        · exact onwards (slashes + 1) 0
        · split
          · split
            · exact onwards 0 _
            · exact ⟨[], rfl, rfl⟩
          · exact onwards 0 0

theorem stringBody_passes {quote : Char} {mark : Mark} {text value : List Char} {after : Reader}
    (read : stringBody quote mark text = .ok (value, after)) :
    ∃ passed, Reader.Passes ⟨text, mark⟩ passed after := by
  fun_induction stringBody quote mark text generalizing value after with
  | case1 => cases read
  | case2 mark rest =>
      cases read
      exact ⟨[quote], rfl, rfl⟩
  | case3 mark different => cases read
  | case4 mark escaped rest unknown different => cases read
  | case5 mark escaped rest replacement known different ih =>
      obtain ⟨result, inner, same⟩ := Outcome.map_eq_ok.mp read
      cases same
      obtain ⟨passed, passes⟩ := ih inner
      exact ⟨['\\', escaped] ++ passed, Reader.Passes.trans ⟨rfl, rfl⟩ passes⟩
  | case6 mark c rest different plain ih =>
      obtain ⟨result, inner, same⟩ := Outcome.map_eq_ok.mp read
      cases same
      obtain ⟨passed, passes⟩ := ih inner
      exact ⟨[c] ++ passed, Reader.Passes.trans ⟨rfl, rfl⟩ passes⟩

theorem append_isPrefix {start further text : List Char} (starts : start <+: text)
    (continues : further <+: text.drop start.length) : start ++ further <+: text := by
  obtain ⟨rest, rfl⟩ := starts
  rw [List.drop_left] at continues
  exact (List.prefix_append_right_inj start).mpr continues

theorem drop_takeWhile (accepts : Char → Bool) (text : List Char) :
    text.drop (text.takeWhile accepts).length = text.dropWhile accepts := by
  refine List.append_cancel_left (?_ : text.takeWhile accepts ++ _ = text.takeWhile accepts ++ _)
  rw [List.takeWhile_append_dropWhile]
  exact (List.prefix_iff_eq_append.mp (List.takeWhile_prefix accepts))

theorem fractionLexeme_isPrefix (text : List Char) : fractionLexeme text <+: text := by
  unfold fractionLexeme
  split
  case h_1 rest =>
    by_cases empty : (rest.takeWhile Text.isDecimal).isEmpty
    · simp only [empty, if_true]
      exact List.nil_prefix
    · simp only [empty]
      exact List.cons_prefix_cons.mpr ⟨rfl, List.takeWhile_prefix _⟩
  · exact List.nil_prefix

theorem exponentLexeme_isPrefix (text : List Char) : exponentLexeme text <+: text := by
  cases text with
  | nil => exact List.nil_prefix
  | cons e rest =>
      dsimp only [exponentLexeme]
      generalize (if rest.head? == some '+' || rest.head? == some '-' then 1 else 0) = signs
      split
      · exact List.cons_prefix_cons.mpr ⟨rfl,
          append_isPrefix (List.take_prefix _ rest) (List.takeWhile_prefix _)⟩
      · exact List.nil_prefix

theorem numberLexeme_isPrefix (text : List Char) : numberLexeme text <+: text := by
  dsimp only [numberLexeme]
  split
  · exact List.nil_prefix
  · rw [List.append_assoc]
    apply append_isPrefix (List.takeWhile_prefix _)
    rw [drop_takeWhile]
    exact append_isPrefix (fractionLexeme_isPrefix _) (exponentLexeme_isPrefix _)

theorem nameLexeme_isPrefix (text : List Char) : nameLexeme text <+: text := by
  unfold nameLexeme
  split
  · exact List.nil_prefix
  · split
    · exact List.takeWhile_prefix _
    · exact List.nil_prefix

theorem symbols_nonempty : ∀ symbol ∈ symbols, symbol.1.toList ≠ [] := by
  decide

theorem stringToken_passes {tag : TagEnd} {quote : Char} {reader after : Reader} {token : Token}
    (starts : reader.rest.head? = some quote)
    (read : stringToken tag quote reader = .ok (token, after)) :
    ∃ passed, reader.Passes (quote :: passed) after := by
  unfold stringToken at read
  split at read
  case h_1 value found body =>
    cases read
    obtain ⟨passed, passes⟩ := stringBody_passes body
    have first : reader.Passes [quote] ⟨reader.rest.drop 1, reader.mark.step quote⟩ :=
      ⟨by simpa using (List.cons_head?_tail starts).symm, rfl⟩
    exact ⟨passed, first.trans passes⟩
  all_goals cases read

/-- A token takes at least one character. -/
theorem tagToken_passes {tag : TagEnd} {reader after : Reader} {token : Token}
    (read : tagToken tag reader = .ok (token, after)) :
    ∃ passed, passed ≠ [] ∧ reader.Passes passed after := by
  unfold tagToken at read
  split at read
  · cases read
  case h_2 c rest starts =>
    split at read
    · obtain ⟨passed, passes⟩ := stringToken_passes (by rw [starts]; rfl) read
      exact ⟨c :: passed, List.cons_ne_nil _ _, passes⟩
    · split at read
      case isTrue number =>
        cases read
        exact ⟨numberLexeme reader.rest, by simpa using number,
          Reader.passes_of_isPrefix (numberLexeme_isPrefix _)⟩
      · split at read
        case isTrue name =>
          cases read
          exact ⟨nameLexeme reader.rest, by simpa using name,
            Reader.passes_of_isPrefix (nameLexeme_isPrefix _)⟩
        · split at read
          case h_1 symbol kind found =>
            cases read
            have starts : reader.startsWith symbol.toList = true :=
              List.find?_some (p := fun symbol : String × TokenKind =>
                reader.startsWith symbol.1.toList) found
            exact ⟨symbol.toList, symbols_nonempty _ (List.mem_of_find?_eq_some found),
              Reader.passes_of_isPrefix (List.isPrefixOf_iff_prefix.mp starts)⟩
          · cases read

theorem tagToken_length {tag : TagEnd} {reader after : Reader} {token : Token}
    (read : tagToken tag reader = .ok (token, after)) :
    after.rest.length < reader.rest.length := by
  obtain ⟨passed, nonempty, passes⟩ := tagToken_passes read
  have positive := List.length_pos_iff.mpr nonempty
  have lengths := passes.length
  omega

/-- Every turn but the last passes a token, so the text left bounds the turns. -/
theorem tagTokens_budget {tag : TagEnd} {reader : Reader} {budget other : Nat}
    (enough : reader.rest.length ≤ budget) (enoughOther : reader.rest.length ≤ other) :
    tagTokens tag budget reader = tagTokens tag other reader := by
  induction budget generalizing other reader with
  | zero =>
      cases other with
      | zero => rfl
      | succ other =>
          have empty : reader.skipBlanks.rest = [] := by
            have shorter := reader.skipBlanks_length
            exact List.length_eq_zero_iff.mp (by omega)
          simp [tagTokens, empty]
  | succ budget ih =>
      cases other with
      | zero =>
          have empty : reader.skipBlanks.rest = [] := by
            have shorter := reader.skipBlanks_length
            exact List.length_eq_zero_iff.mp (by omega)
          simp [tagTokens, empty]
      | succ other =>
          simp only [tagTokens]
          cases read : tagToken tag reader.skipBlanks with
          | error stop => rfl
          | ok result =>
              have shorter := reader.skipBlanks_length
              have passed : result.2.rest.length < reader.skipBlanks.rest.length :=
                tagToken_length read
              have same : tagTokens tag budget result.2 = tagTokens tag other result.2 :=
                ih (by omega) (by omega)
              simp only [Outcome.ok_bind, same]

theorem skipComment_passes {delimiters : Delimiters} {reader after : Reader} {trims : Bool}
    (starts : delimiters.commentOpen.toList <+: reader.rest)
    (read : skipComment delimiters reader = .ok (trims, after)) :
    ∃ passed, reader.Passes (delimiters.commentOpen.toList ++ passed) after := by
  have opened : reader.Passes delimiters.commentOpen.toList
      (reader.skip delimiters.commentOpen.length) :=
    Reader.passes_of_isPrefix starts
  obtain ⟨_, marked⟩ := (reader.skip delimiters.commentOpen.length).passes_marker
  simp only [skipComment] at read
  split at read
  · cases read
  · cases read
    exact ⟨_, opened.trans (marked.trans (Reader.passes_skip _ _))⟩

theorem tagTokens_passes {tag : TagEnd} {budget : Nat} {reader after : Reader}
    {tokens : List Token} {trims : Bool}
    (read : tagTokens tag budget reader = .ok (tokens, trims, after)) :
    ∃ passed, reader.Passes passed after := by
  induction budget generalizing reader tokens with
  | zero => cases read
  | succ budget ih =>
      have blanks := reader.passes_skipBlanks
      simp only [tagTokens] at read
      split at read
      · cases read
      · split at read
        · cases read
          exact ⟨_, blanks.trans ((Reader.passes_skip _ 1).trans (Reader.passes_skip _ _))⟩
        · split at read
          · cases read
            exact ⟨_, blanks.trans (Reader.passes_skip _ _)⟩
          · obtain ⟨first, token, rest⟩ := Outcome.bind_eq_ok.mp read
            obtain ⟨⟨others, ends⟩, inner, same⟩ := Outcome.bind_eq_ok.mp rest
            cases same
            obtain ⟨_, _, passesToken⟩ := tagToken_passes token
            obtain ⟨_, passesOthers⟩ := ih inner
            exact ⟨_, blanks.trans (passesToken.trans passesOthers)⟩

theorem tag_passes {openKind closeKind : TokenKind} {opener close : List Char} {budget : Nat}
    {reader after : Reader} {tokens : List Token} {trims : Bool} (starts : opener <+: reader.rest)
    (read : tag openKind closeKind opener close budget reader = .ok (tokens, trims, after)) :
    ∃ passed, reader.Passes (opener ++ passed) after := by
  obtain ⟨_, marked⟩ := (reader.skip opener.length).passes_marker
  obtain ⟨⟨others, ends⟩, inner, same⟩ := Outcome.bind_eq_ok.mp read
  cases same
  obtain ⟨_, passes⟩ := tagTokens_passes inner
  exact ⟨_, (Reader.passes_of_isPrefix starts).trans (marked.trans passes)⟩

theorem tagOrComment_passes {delimiters : Delimiters} {opener : List Char} {budget : Nat}
    {reader after : Reader} {tokens : List Token} {trims : Bool} (starts : opener <+: reader.rest)
    (read : tagOrComment delimiters opener budget reader = .ok (tokens, trims, after)) :
    ∃ passed, reader.Passes (opener ++ passed) after := by
  unfold tagOrComment at read
  split at read
  case isTrue comment =>
    obtain ⟨_, skipped, same⟩ := Outcome.map_eq_ok.mp read
    cases same
    subst comment
    exact skipComment_passes starts skipped
  · split at read
    · exact tag_passes starts read
    · exact tag_passes starts read

theorem textToken_passes (openers : List (List Char)) (trims : Bool) (reader : Reader) :
    ∃ passed, reader.Passes passed (textToken openers trims reader).2 := by
  obtain ⟨_, trimmed⟩ := reader.passes_textStart trims
  obtain ⟨_, passes⟩ := textRun_passes openers 0 0 (reader.textStart trims).mark
    (reader.textStart trims).rest
  exact ⟨_, trimmed.trans passes⟩

theorem tag_budget {openKind closeKind : TokenKind} {opener close : List Char} {reader : Reader}
    {budget other : Nat} (nonempty : opener ≠ []) (starts : opener <+: reader.rest)
    (enough : reader.rest.length ≤ budget + 1) (enoughOther : reader.rest.length ≤ other + 1) :
    tag openKind closeKind opener close budget reader =
      tag openKind closeKind opener close other reader := by
  obtain ⟨_, marked⟩ := (reader.skip opener.length).passes_marker
  have positive := List.length_pos_iff.mpr nonempty
  have lengths := ((Reader.passes_of_isPrefix starts).trans marked).length
  rw [List.length_append] at lengths
  have same : tagTokens ⟨close, closeKind, reader.mark⟩ budget
        (reader.skip opener.length).skipMarker =
      tagTokens ⟨close, closeKind, reader.mark⟩ other (reader.skip opener.length).skipMarker :=
    tagTokens_budget (by omega) (by omega)
  simp only [tag, lexemeToken, same]

theorem tagOrComment_budget {delimiters : Delimiters} {opener : List Char} {reader : Reader}
    {budget other : Nat} (nonempty : opener ≠ []) (starts : opener <+: reader.rest)
    (enough : reader.rest.length ≤ budget + 1) (enoughOther : reader.rest.length ≤ other + 1) :
    tagOrComment delimiters opener budget reader = tagOrComment delimiters opener other reader := by
  unfold tagOrComment
  rw [tag_budget nonempty starts enough enoughOther, tag_budget nonempty starts enough enoughOther]

theorem tokensFrom_nil {delimiters : Delimiters} {openers : List (List Char)}
    (nonempty : [] ∉ openers) (budget : Nat) (trims : Bool) {reader : Reader}
    (empty : reader.rest = []) :
    tokensFrom delimiters openers budget trims reader = .ok [⟨.endOfInput, "", reader.mark⟩] := by
  cases budget with
  | zero => rfl
  | succ budget =>
      obtain ⟨rest, mark⟩ := reader
      subst empty
      have start : Reader.textStart ⟨[], mark⟩ trims = ⟨[], mark⟩ := by
        cases trims <;> rfl
      simp [tokensFrom, textToken, start, textRun, trimmedRun, opener?_nil nonempty]

/-- Every turn passes an opener, so the text left bounds the turns of the whole text too. -/
theorem tokensFrom_budget {delimiters : Delimiters} {openers : List (List Char)}
    (nonempty : [] ∉ openers) {budget other : Nat} {trims : Bool} {reader : Reader}
    (enough : reader.rest.length ≤ budget) (enoughOther : reader.rest.length ≤ other) :
    tokensFrom delimiters openers budget trims reader =
      tokensFrom delimiters openers other trims reader := by
  induction budget generalizing other trims reader with
  | zero =>
      have empty : reader.rest = [] := List.length_eq_zero_iff.mp (by omega)
      rw [tokensFrom_nil nonempty 0 trims empty, tokensFrom_nil nonempty other trims empty]
  | succ budget ih =>
      cases other with
      | zero =>
          have empty : reader.rest = [] := List.length_eq_zero_iff.mp (by omega)
          rw [tokensFrom_nil nonempty _ trims empty, tokensFrom_nil nonempty 0 trims empty]
      | succ other =>
          obtain ⟨_, passes⟩ := textToken_passes openers trims reader
          have shorter := passes.length
          simp only [tokensFrom]
          split
          · rfl
          case h_2 opener found =>
            have starts := prefix_of_opener? found
            have something : opener ≠ [] := fun empty =>
              nonempty (empty ▸ mem_of_opener? found)
            have sameTag : tagOrComment delimiters opener budget (textToken openers trims reader).2 =
                tagOrComment delimiters opener other (textToken openers trims reader).2 :=
              tagOrComment_budget something starts (by omega) (by omega)
            rw [sameTag]
            cases read : tagOrComment delimiters opener other (textToken openers trims reader).2 with
            | error stop => rfl
            | ok result =>
                obtain ⟨tokens, trims', after⟩ := result
                obtain ⟨_, tagPasses⟩ := tagOrComment_passes starts read
                have tagShorter := tagPasses.length
                have positive := List.length_pos_iff.mpr something
                rw [List.length_append] at tagShorter
                have same : tokensFrom delimiters openers budget trims' after =
                    tokensFrom delimiters openers other trims' after :=
                  ih (by omega) (by omega)
                simp only [Outcome.ok_bind, same]

end Templating.Lexer
