import Templating.Proofs.Lexer.Progress

/-!
A text that starts somewhere else reads as the same tokens, each displaced to where the text starts,
or stops at the same place of it for the same cause.
-/

namespace Templating

/-- The place of a mark when the text that it counts in starts at `origin`. -/
def Mark.displace (origin mark : Mark) : Mark where
  line := origin.line + (mark.line - 1)
  column := if mark.line = 1 then origin.column + (mark.column - 1) else mark.column
  byteOffset := origin.byteOffset + mark.byteOffset

def Token.displace (origin : Mark) (token : Token) : Token :=
  { token with mark := origin.displace token.mark }

namespace Outcome

variable {ε α β : Type} {failed : ε → ε → Prop} {same : α → α → Prop} {further : β → β → Prop}

/-- Both give values that are related, or both fail in ways that are related. -/
inductive Alike (failed : ε → ε → Prop) (same : α → α → Prop) :
    Except ε α → Except ε α → Prop where
  | ok {left right : α} (values : same left right) : Alike failed same (.ok left) (.ok right)
  | error {left right : ε} (failures : failed left right) :
      Alike failed same (.error left) (.error right)

theorem Alike.bind {left right : Except ε α} {next other : α → Except ε β}
    (alike : Alike failed same left right)
    (continues : ∀ value moved, same value moved →
      Alike failed further (next value) (other moved)) :
    Alike failed further (left >>= next) (right >>= other) := by
  cases alike with
  | ok values => exact continues _ _ values
  | error failures => exact .error failures

theorem Alike.map {left right : Except ε α} {change : α → β} (alike : Alike failed same left right)
    (keeps : ∀ value moved, same value moved → further (change value) (change moved)) :
    Alike failed further (left.map change) (right.map change) := by
  cases alike with
  | ok values => exact .ok (keeps _ _ values)
  | error failures => exact .error failures

theorem Alike.mono {left right : Except ε α} {wider : α → α → Prop}
    (alike : Alike failed same left right)
    (widens : ∀ value moved, same value moved → wider value moved) : Alike failed wider left right := by
  cases alike with
  | ok values => exact .ok (widens _ _ values)
  | error failures => exact .error failures

theorem Alike.known {left right : Except ε α} (alike : Alike failed same left right) :
    Alike failed (fun value moved => same value moved ∧ left = .ok value) left right := by
  cases alike with
  | ok values => exact .ok ⟨values, rfl⟩
  | error failures => exact .error failures

/-- What is alike to the same is alike. -/
theorem Alike.meet {missed : ε → ε → Prop} {again : α → α → Prop} {whole left right : Except ε α}
    (one : Alike failed same whole left) (two : Alike missed again whole right) :
    Alike (fun _ _ => True) (fun value other => ∃ shared, same shared value ∧ again shared other)
      left right := by
  cases one with
  | ok values =>
      cases two with
      | ok others => exact .ok ⟨_, values, others⟩
  | error =>
      cases two with
      | error => exact .error trivial

end Outcome

open Outcome (Alike)

/-- A mark of a text, whose lines and columns count from one, and its place in the whole. -/
structure Mark.Displaced (mark origin moved : Mark) : Prop where
  line : 0 < mark.line
  column : 0 < mark.column
  moved : moved = origin.displace mark

namespace Mark

variable {origin mark moved : Mark}

theorem displace_start (origin : Mark) : origin.displace {} = origin := by
  cases origin
  simp [displace]

theorem displaced_start (origin : Mark) : Displaced {} origin origin :=
  ⟨Nat.one_pos, Nat.one_pos, (displace_start origin).symm⟩

theorem Displaced.step (displaced : mark.Displaced origin moved) (c : Char) :
    (mark.step c).Displaced origin (moved.step c) := by
  obtain ⟨line, column, rfl⟩ := displaced
  by_cases feed : c = '\n'
  · refine ⟨by simp [Mark.step, feed], by simp [Mark.step, feed], ?_⟩
    have later : mark.line + 1 ≠ 1 := by omega
    simp only [Mark.step, feed, if_true, displace, later, if_false, Mark.mk.injEq, true_and]
    omega
  · refine ⟨by simp [Mark.step, feed, line], by simp [Mark.step, feed], ?_⟩
    simp only [Mark.step, feed, if_false, displace, Mark.mk.injEq, true_and]
    refine ⟨?_, by omega⟩
    split <;> omega

theorem Displaced.past (displaced : mark.Displaced origin moved) (text : List Char) :
    (mark.past text).Displaced origin (moved.past text) := by
  induction text generalizing mark moved with
  | nil => exact displaced
  | cons c text ih => exact ih (displaced.step c)

end Mark

namespace Lexer

/-- Both readers have the same text left, the second one in the whole. -/
structure Reader.Displaced (origin : Mark) (reader moved : Reader) : Prop where
  rest : moved.rest = reader.rest
  mark : reader.mark.Displaced origin moved.mark

end Lexer

/-- A token and the same token in the whole. -/
def Token.Displaced (origin : Mark) (token moved : Token) : Prop :=
  moved = token.displace origin

namespace Lexer

variable {origin : Mark} {reader moved : Reader} {mark place : Mark}

/-- The cause is the same, blamed on the place in the whole. -/
def Stop.Displaced (origin : Mark) (stop moved : Stop) : Prop :=
  moved.1 = stop.1 ∧ moved.2 = origin.displace stop.2

namespace Reader.Displaced

theorem skip (displaced : reader.Displaced origin moved) (count : Nat) :
    (reader.skip count).Displaced origin (moved.skip count) := by
  refine ⟨?_, ?_⟩
  · simp only [Reader.skip, displaced.rest]
  · rw [Reader.skip, Reader.skip, displaced.rest]
    exact displaced.mark.past _

theorem startsWith (displaced : reader.Displaced origin moved) (text : List Char) :
    moved.startsWith text = reader.startsWith text := by
  rw [Reader.startsWith, Reader.startsWith, displaced.rest]

theorem skipBlanks (displaced : reader.Displaced origin moved) :
    reader.skipBlanks.Displaced origin moved.skipBlanks := by
  rw [Reader.skipBlanks, Reader.skipBlanks, displaced.rest]
  exact displaced.skip _

theorem skipMarker (displaced : reader.Displaced origin moved) :
    reader.skipMarker.Displaced origin moved.skipMarker := by
  rw [Reader.skipMarker, Reader.skipMarker, displaced.rest]
  split
  · exact displaced.skip 1
  · exact displaced

theorem textStart (displaced : reader.Displaced origin moved) (trims : Bool) :
    (reader.textStart trims).Displaced origin (moved.textStart trims) := by
  cases trims with
  | false => exact displaced
  | true => exact displaced.skipBlanks

end Reader.Displaced

/-- A text and a reader behind it, and the same in the whole. -/
def RunDisplaced (origin : Mark) (run moved : List Char × Reader) : Prop :=
  moved.1 = run.1 ∧ run.2.Displaced origin moved.2

theorem RunDisplaced.precede {run moved : List Char × Reader}
    (displaced : RunDisplaced origin run moved) (start : List Char) :
    RunDisplaced origin (precede start run) (precede start moved) :=
  ⟨congrArg (start ++ ·) displaced.1, displaced.2⟩

theorem textRun_displaced (openers : List (List Char)) (slashes literal : Nat) (text : List Char)
    (displaced : mark.Displaced origin place) :
    RunDisplaced origin (textRun openers slashes literal mark text)
      (textRun openers slashes literal place text) := by
  induction text generalizing slashes literal mark place with
  | nil => exact ⟨rfl, rfl, displaced⟩
  | cons c rest ih =>
      have onwards := fun slashes literal => ih slashes literal (displaced.step c)
      unfold textRun
      split
      · exact (onwards 0 _).precede [c]
      · split
        · exact onwards _ 0
        · split
          · split
            · exact (onwards 0 _).precede _
            · exact ⟨rfl, rfl, displaced⟩
          · exact (onwards 0 0).precede _

/-- The literal does not end, or has the same bad escape at the place in the whole. -/
inductive StringStop.Displaced (origin : Mark) : StringStop → StringStop → Prop where
  | endOfText : Displaced origin .endOfText .endOfText
  | badEscape {mark place : Mark} (escaped : Char) (displaced : mark.Displaced origin place) :
      Displaced origin (.badEscape escaped mark) (.badEscape escaped place)

theorem stringBody_displaced (quote : Char) (text : List Char)
    (displaced : mark.Displaced origin place) :
    Alike (StringStop.Displaced origin) (RunDisplaced origin) (stringBody quote mark text)
      (stringBody quote place text) := by
  fun_induction stringBody quote mark text generalizing place with
  | case1 => exact .error .endOfText
  | case2 mark rest =>
      rw [stringBody.eq_def]
      simp only [if_true]
      exact .ok ⟨rfl, rfl, displaced.step quote⟩
  | case3 mark different =>
      rw [stringBody.eq_def]
      simp only [if_neg different, if_true]
      exact .error .endOfText
  | case4 mark escaped rest unknown different =>
      rw [stringBody.eq_def]
      simp only [if_neg different, if_true, unknown]
      exact .error (.badEscape escaped displaced)
  | case5 mark escaped rest replacement known different ih =>
      rw [stringBody.eq_def quote place]
      simp only [if_neg different, if_true, known]
      exact (ih ((displaced.step '\\').step escaped)).map fun _ _ run => run.precede _
  | case6 mark c rest different plain ih =>
      rw [stringBody.eq_def quote place]
      simp only [if_neg different, if_neg plain]
      exact (ih (displaced.step c)).map fun _ _ run => run.precede _

/-- A token and the reader behind it, and the same in the whole. -/
def TokenDisplaced (origin : Mark) (read moved : Token × Reader) : Prop :=
  read.1.Displaced origin moved.1 ∧ read.2.Displaced origin moved.2

theorem lexemeToken_displaced (kind : TokenKind) (lexeme : List Char)
    (displaced : reader.Displaced origin moved) :
    TokenDisplaced origin (lexemeToken kind lexeme reader) (lexemeToken kind lexeme moved) := by
  refine ⟨?_, displaced.skip _⟩
  rw [Token.Displaced, lexemeToken, lexemeToken, displaced.mark.moved]
  rfl

/-- The same end of a tag that starts at the place in the whole. -/
structure TagEnd.Displaced (origin : Mark) (tag moved : TagEnd) : Prop where
  close : moved.close = tag.close
  kind : moved.kind = tag.kind
  start : moved.start = origin.displace tag.start

variable {tag tagMoved : TagEnd}

theorem stringToken_displaced (ends : tag.Displaced origin tagMoved) (quote : Char)
    (displaced : reader.Displaced origin moved) :
    Alike (Stop.Displaced origin) (TokenDisplaced origin) (stringToken tag quote reader)
      (stringToken tagMoved quote moved) := by
  have body := stringBody_displaced quote (reader.rest.drop 1) (displaced.mark.step quote)
  unfold stringToken
  rw [displaced.rest]
  generalize stringBody quote (reader.mark.step quote) (reader.rest.drop 1) = outcome at body ⊢
  generalize stringBody quote (moved.mark.step quote) (reader.rest.drop 1) = outcomeMoved at body ⊢
  cases body with
  | ok values =>
      refine .ok ⟨?_, values.2⟩
      rw [Token.Displaced, values.1, displaced.mark.moved]
      rfl
  | error failures =>
      cases failures with
      | endOfText =>
          refine .error ?_
          rw [unterminatedString, unterminatedString, displaced.rest, ends.close]
          split
          · exact ⟨rfl, displaced.mark.moved⟩
          · exact ⟨rfl, ends.start⟩
      | badEscape escaped escapedMoved => exact .error ⟨rfl, escapedMoved.moved⟩

theorem tagToken_displaced (ends : tag.Displaced origin tagMoved)
    (displaced : reader.Displaced origin moved) :
    Alike (Stop.Displaced origin) (TokenDisplaced origin) (tagToken tag reader)
      (tagToken tagMoved moved) := by
  unfold tagToken
  simp only [Reader.startsWith, displaced.rest]
  split
  · exact .error ⟨by rw [ends.close], ends.start⟩
  · split
    · exact stringToken_displaced ends _ displaced
    · split
      · exact .ok (lexemeToken_displaced _ _ displaced)
      · split
        · exact .ok (lexemeToken_displaced _ _ displaced)
        · split
          · exact .ok (lexemeToken_displaced _ _ displaced)
          · exact .error ⟨rfl, displaced.mark.moved⟩

/-- The tokens of a part, whether it trims what follows, and the reader behind it, and the same in the
whole. -/
structure TokensDisplaced (origin : Mark) (read moved : List Token × Bool × Reader) : Prop where
  tokens : moved.1 = read.1.map (Token.displace origin)
  trims : moved.2.1 = read.2.1
  after : read.2.2.Displaced origin moved.2.2

theorem TokensDisplaced.cons {token tokenMoved : Token} {read readMoved : List Token × Bool × Reader}
    (first : token.Displaced origin tokenMoved) (rest : TokensDisplaced origin read readMoved) :
    TokensDisplaced origin (token :: read.1, read.2) (tokenMoved :: readMoved.1, readMoved.2) :=
  ⟨congrArg₂ List.cons first rest.tokens, rest.trims, rest.after⟩

theorem TokensDisplaced.closing {read readMoved : Token × Reader} (trims : Bool)
    (displaced : TokenDisplaced origin read readMoved) :
    TokensDisplaced origin ([read.1], trims, read.2) ([readMoved.1], trims, readMoved.2) :=
  ⟨congrArg (· :: []) displaced.1, rfl, displaced.2⟩

theorem tagTokens_displaced (ends : tag.Displaced origin tagMoved) (budget : Nat)
    (displaced : reader.Displaced origin moved) :
    Alike (Stop.Displaced origin) (TokensDisplaced origin) (tagTokens tag budget reader)
      (tagTokens tagMoved budget moved) := by
  have open_ : Stop.Displaced origin (.unterminatedTag (String.ofList tag.close), tag.start)
      (.unterminatedTag (String.ofList tagMoved.close), tagMoved.start) :=
    ⟨by rw [ends.close], ends.start⟩
  induction budget generalizing reader moved with
  | zero => exact .error open_
  | succ budget ih =>
      have blanks := displaced.skipBlanks
      simp only [tagTokens, blanks.rest, blanks.startsWith, ends.kind]
      by_cases empty : reader.skipBlanks.rest.isEmpty
      · rw [if_pos empty, if_pos empty]
        exact .error open_
      · rw [if_neg empty, if_neg empty, ends.close]
        by_cases trimmed : reader.skipBlanks.startsWith ('-' :: tag.close)
        · rw [if_pos trimmed, if_pos trimmed]
          exact .ok (TokensDisplaced.closing true (lexemeToken_displaced _ _ (blanks.skip 1)))
        · rw [if_neg trimmed, if_neg trimmed]
          by_cases closed : reader.skipBlanks.startsWith tag.close
          · rw [if_pos closed, if_pos closed]
            exact .ok (TokensDisplaced.closing false (lexemeToken_displaced _ _ blanks))
          · rw [if_neg closed, if_neg closed]
            refine (tagToken_displaced ends blanks).bind fun read readMoved first => ?_
            refine (ih first.2).bind fun others othersMoved rest => ?_
            exact .ok (rest.cons first.1)

theorem tag_displaced (openKind closeKind : TokenKind) (opener close : List Char) (budget : Nat)
    (displaced : reader.Displaced origin moved) :
    Alike (Stop.Displaced origin) (TokensDisplaced origin)
      (Lexer.tag openKind closeKind opener close budget reader)
      (Lexer.tag openKind closeKind opener close budget moved) := by
  have opened := lexemeToken_displaced openKind opener displaced
  have ends : TagEnd.Displaced origin ⟨close, closeKind, reader.mark⟩ ⟨close, closeKind, moved.mark⟩ :=
    ⟨rfl, rfl, displaced.mark.moved⟩
  refine (tagTokens_displaced ends budget opened.2.skipMarker).bind fun read readMoved rest => ?_
  exact .ok (rest.cons opened.1)

theorem skipComment_displaced (delimiters : Delimiters) (displaced : reader.Displaced origin moved) :
    Alike (Stop.Displaced origin)
      (fun read readMoved => readMoved.1 = read.1 ∧ read.2.Displaced origin readMoved.2)
      (skipComment delimiters reader) (skipComment delimiters moved) := by
  have content := (displaced.skip delimiters.commentOpen.length).skipMarker
  simp only [skipComment, content.rest]
  split
  · exact .error ⟨rfl, displaced.mark.moved⟩
  · exact .ok ⟨rfl, content.skip _⟩

theorem tagOrComment_displaced (delimiters : Delimiters) (opener : List Char) (budget : Nat)
    (displaced : reader.Displaced origin moved) :
    Alike (Stop.Displaced origin) (TokensDisplaced origin)
      (tagOrComment delimiters opener budget reader)
      (tagOrComment delimiters opener budget moved) := by
  unfold tagOrComment
  split
  · exact (skipComment_displaced delimiters displaced).map fun _ _ skipped =>
      ⟨rfl, skipped.1, skipped.2⟩
  · split
    · exact tag_displaced _ _ _ _ budget displaced
    · exact tag_displaced _ _ _ _ budget displaced

theorem textToken_displaced (openers : List (List Char)) (trims : Bool)
    (displaced : reader.Displaced origin moved) :
    (textToken openers trims moved).1 =
        (textToken openers trims reader).1.map (Token.displace origin) ∧
      (textToken openers trims reader).2.Displaced origin (textToken openers trims moved).2 := by
  have start := displaced.textStart trims
  have run := textRun_displaced openers 0 0 (reader.textStart trims).rest start.mark
  simp only [textToken, start.rest]
  refine ⟨?_, run.2⟩
  rw [run.1, run.2.rest, start.mark.moved]
  split <;> rfl

theorem tokensFrom_displaced (delimiters : Delimiters) (openers : List (List Char)) (budget : Nat)
    (trims : Bool) (displaced : reader.Displaced origin moved) :
    Alike (Stop.Displaced origin)
      (fun tokens tokensMoved => tokensMoved = tokens.map (Token.displace origin))
      (tokensFrom delimiters openers budget trims reader)
      (tokensFrom delimiters openers budget trims moved) := by
  induction budget generalizing trims reader moved with
  | zero =>
      refine .ok ?_
      rw [displaced.mark.moved]
      rfl
  | succ budget ih =>
      obtain ⟨text, after⟩ := textToken_displaced openers trims displaced
      simp only [tokensFrom, after.rest, text]
      split
      · refine .ok ?_
        rw [after.mark.moved, List.map_append]
        rfl
      · refine (tagOrComment_displaced delimiters _ budget after).bind fun read readMoved part => ?_
        rw [part.trims]
        refine (ih _ part.after).bind fun others othersMoved rest => ?_
        refine .ok ?_
        rw [rest, part.tokens, List.map_append, List.map_append]

end Lexer

end Templating
