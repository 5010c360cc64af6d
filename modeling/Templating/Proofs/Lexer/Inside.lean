import Templating.Canonical
import Templating.Proofs.Lexer.Progress
import Templating.Proofs.Text.Ascii

/-!
What stands inside a tag, without its places: a text reads as lexemes when reading it leaves these
and goes on with the rest. Reading is compositional, so the lexemes of a long text are those of its
parts in order.
-/

namespace Templating

/-- A token without its place. -/
abbrev Lexeme := TokenKind × String

def Token.lexeme (token : Token) : Lexeme :=
  (token.kind, token.value)

namespace Lexer

/-- The tokens up to the end of the tag, read with as many turns as there are characters. -/
def tagRest (tag : TagEnd) (reader : Reader) : Except Stop (List Token × Bool × Reader) :=
  tagTokens tag reader.rest.length reader

theorem tagTokens_eq_tagRest {tag : TagEnd} {budget : Nat} {reader : Reader}
    (enough : reader.rest.length ≤ budget) : tagTokens tag budget reader = tagRest tag reader :=
  tagTokens_budget enough (Nat.le_refl _)

/-- Neither a closing delimiter nor a hyphen before one comes next. -/
def StaysInside (tag : TagEnd) (text : List Char) : Prop :=
  tag.close.isPrefixOf text = false ∧ ('-' :: tag.close).isPrefixOf text = false

theorem skipBlanks_cons {c : Char} {rest : List Char} {mark : Mark} (blank : Text.isBlank c) :
    Reader.skipBlanks ⟨c :: rest, mark⟩ = Reader.skipBlanks ⟨rest, mark.step c⟩ := by
  simp [Reader.skipBlanks, Reader.skip, blank, Mark.past]

theorem skipBlanks_eq_self {c : Char} {rest : List Char} {mark : Mark}
    (visible : Text.isBlank c = false) :
    Reader.skipBlanks ⟨c :: rest, mark⟩ = ⟨c :: rest, mark⟩ := by
  simp [Reader.skipBlanks, Reader.skip, visible, Mark.past]

theorem tagRest_blank {tag : TagEnd} {c : Char} {rest : List Char} {mark : Mark}
    (blank : Text.isBlank c) : tagRest tag ⟨c :: rest, mark⟩ = tagRest tag ⟨rest, mark.step c⟩ := by
  have wide : tagRest tag ⟨rest, mark.step c⟩ =
      tagTokens tag (rest.length + 1) ⟨rest, mark.step c⟩ :=
    (tagTokens_eq_tagRest (Nat.le_succ _)).symm
  rw [wide]
  simp only [tagRest, List.length_cons, tagTokens, skipBlanks_cons blank]

theorem tagRest_token {tag : TagEnd} {c : Char} {rest : List Char} {mark : Mark} {token : Token}
    {after : Reader} (visible : Text.isBlank c = false) (inside : StaysInside tag (c :: rest))
    (read : tagToken tag ⟨c :: rest, mark⟩ = .ok (token, after)) :
    tagRest tag ⟨c :: rest, mark⟩ =
      (tagRest tag after).map fun result => (token :: result.1, result.2) := by
  have shorter := tagToken_length read
  have next : tagTokens tag rest.length after = tagRest tag after :=
    tagTokens_eq_tagRest (by simpa using Nat.le_of_lt_succ shorter)
  simp only [tagRest, List.length_cons, tagTokens, skipBlanks_eq_self visible,
    Reader.startsWith, inside.1, inside.2, List.isEmpty_cons, Bool.false_eq_true, if_false, read,
    Outcome.ok_bind, next]
  cases tagTokens tag after.rest.length after <;> rfl

theorem tagRest_close {tag : TagEnd} {c : Char} {close : List Char}
    (closes : tag.close = c :: close) (visible : Text.isBlank c = false) (plain : c ≠ '-')
    (rest : List Char) (mark : Mark) :
    ∃ mark', tagRest tag ⟨c :: close ++ rest, mark⟩ =
      .ok ([⟨tag.kind, String.ofList tag.close, mark⟩], false, ⟨rest, mark'⟩) := by
  refine ⟨mark.past (c :: close), ?_⟩
  have different : ('-' == c) = false := by simpa using Ne.symm plain
  simp [tagRest, tagTokens, skipBlanks_eq_self visible, Reader.startsWith, closes,
    List.isPrefixOf, different, lexemeToken, Reader.skip]

/-- Reading the text leaves these lexemes and goes on with the rest. -/
def ReadsAs (tag : TagEnd) (text rest : List Char) (lexemes : List Lexeme) : Prop :=
  ∀ mark, ∃ tokens mark', tokens.map Token.lexeme = lexemes ∧
    tagRest tag ⟨text ++ rest, mark⟩ =
      (tagRest tag ⟨rest, mark'⟩).map fun result => (tokens ++ result.1, result.2)

namespace ReadsAs

variable {tag : TagEnd} {text more rest : List Char} {lexemes others : List Lexeme}

theorem nil : ReadsAs tag [] rest [] := by
  intro mark
  refine ⟨[], mark, rfl, ?_⟩
  rw [List.nil_append]
  cases tagRest tag ⟨rest, mark⟩ <;> rfl

theorem append (first : ReadsAs tag text (more ++ rest) lexemes)
    (second : ReadsAs tag more rest others) :
    ReadsAs tag (text ++ more) rest (lexemes ++ others) := by
  intro mark
  obtain ⟨tokens, between, same, reads⟩ := first mark
  obtain ⟨further, after, sameFurther, readsFurther⟩ := second between
  refine ⟨tokens ++ further, after, by rw [List.map_append, same, sameFurther], ?_⟩
  rw [List.append_assoc, reads, readsFurther, Outcome.map_map]
  simp only [List.append_assoc]

theorem white {c : Char} (blank : Text.isBlank c) : ReadsAs tag [c] rest [] := by
  intro mark
  refine ⟨[], mark.step c, rfl, ?_⟩
  rw [List.singleton_append, tagRest_blank blank]
  cases tagRest tag ⟨rest, mark.step c⟩ <;> rfl

theorem blank : ReadsAs tag [' '] rest [] :=
  white (by decide)

theorem token {c : Char} {kind : TokenKind} {value : String}
    (visible : Text.isBlank c = false) (inside : StaysInside tag (c :: text ++ rest))
    (read : ∀ mark, ∃ mark', tagToken tag ⟨c :: text ++ rest, mark⟩ =
      .ok (⟨kind, value, mark⟩, ⟨rest, mark'⟩)) :
    ReadsAs tag (c :: text) rest [(kind, value)] := by
  intro mark
  obtain ⟨after, reads⟩ := read mark
  exact ⟨[⟨kind, value, mark⟩], after, rfl, tagRest_token visible inside reads⟩

end ReadsAs

theorem stringBody_close (quote : Char) (mark : Mark) (rest : List Char) :
    stringBody quote mark (quote :: rest) = .ok ([], ⟨rest, mark.step quote⟩) := by
  rw [stringBody.eq_def]
  simp

theorem stringBody_plain {quote c : Char} (different : c ≠ quote) (plain : c ≠ '\\') (mark : Mark)
    (rest : List Char) : stringBody quote mark (c :: rest) =
      (stringBody quote (mark.step c) rest).map (precede [c]) := by
  rw [stringBody.eq_def]
  simp [different, plain]

theorem stringBody_escape {quote letter c : Char} (different : '\\' ≠ quote)
    (known : escapes.lookup letter = some c) (mark : Mark) (rest : List Char) :
    stringBody quote mark ('\\' :: letter :: rest) =
      (stringBody quote ((mark.step '\\').step letter) rest).map (precede [c]) := by
  rw [stringBody.eq_def]
  simp [different, known]

theorem stringBody_string (mark : Mark) (text : List Char) (rest : List Char) :
    ∃ mark', stringBody '"' mark (text.flatMap Canonical.stringChar ++ '"' :: rest) =
      .ok (text, ⟨rest, mark'⟩) := by
  induction text generalizing mark with
  | nil => exact ⟨mark.step '"', stringBody_close '"' mark rest⟩
  | cons c text ih =>
      have escaped : ∀ letter, escapes.lookup letter = some c →
          ∃ mark', stringBody '"' mark ('\\' :: letter :: (text.flatMap Canonical.stringChar ++ '"' :: rest)) =
            .ok (c :: text, ⟨rest, mark'⟩) := by
        intro letter known
        obtain ⟨after, read⟩ := ih ((mark.step '\\').step letter)
        exact ⟨after, by rw [stringBody_escape (by decide) known, read]; rfl⟩
      rw [List.flatMap_cons, List.append_assoc, Canonical.stringChar]
      split
      case isTrue same => subst same; exact escaped '\\' rfl
      split
      case isTrue same => subst same; exact escaped '"' rfl
      split
      case isTrue same => subst same; exact escaped 'n' rfl
      split
      case isTrue same => subst same; exact escaped 't' rfl
      split
      case isTrue same => subst same; exact escaped 'r' rfl
      case isFalse slash quote _ _ _ =>
        obtain ⟨after, read⟩ := ih (mark.step c)
        exact ⟨after, by rw [List.singleton_append, stringBody_plain quote slash, read]; rfl⟩

theorem lexemeToken_append (kind : TokenKind) (lexeme rest : List Char) (mark : Mark) :
    lexemeToken kind lexeme ⟨lexeme ++ rest, mark⟩ =
      (⟨kind, String.ofList lexeme, mark⟩, ⟨rest, mark.past lexeme⟩) := by
  simp [lexemeToken, Reader.skip]

/-- A tag with one of the usual closing delimiters, which no lexeme but an operator starts. -/
def TagEnd.IsUsual (tag : TagEnd) : Prop :=
  tag.close = ['\x7d', '\x7d'] ∨ tag.close = ['%', '\x7d']

theorem TagEnd.IsUsual.staysInside {tag : TagEnd} (usual : tag.IsUsual) {c : Char}
    {rest : List Char} (brace : c ≠ '\x7d') (percent : c ≠ '%') (hyphen : c ≠ '-') :
    StaysInside tag (c :: rest) := by
  have notBrace := beq_false_of_ne (Ne.symm brace)
  have notPercent := beq_false_of_ne (Ne.symm percent)
  have notHyphen := beq_false_of_ne (Ne.symm hyphen)
  rcases usual with close | close <;>
    simp [StaysInside, close, List.isPrefixOf, notBrace, notPercent, notHyphen]

namespace ReadsAs

variable {tag : TagEnd} {rest : List Char}

theorem name (usual : tag.IsUsual) {word : List Char} (spelled : Text.isName word)
    (ends : ∀ c ∈ rest.head?, Text.isNamePart c = false) :
    ReadsAs tag word rest [(wordKind (String.ofList word), String.ofList word)] := by
  cases word with
  | nil => cases spelled
  | cons c others =>
      simp only [Text.isName, Bool.and_eq_true, List.all_eq_true] at spelled
      have code := Text.isNameStart_code spelled.1
      have noQuote : ¬ (c = '\'' ∨ c = '"') := by
        rintro (rfl | rfl) <;> revert code <;> decide
      have number : numberLexeme (c :: (others ++ rest)) = [] := by
        simp [numberLexeme, Text.isDecimal_of_isNameStart spelled.1]
      have lexeme : nameLexeme (c :: (others ++ rest)) = c :: others := by
        rw [nameLexeme, if_pos spelled.1, ← List.cons_append, List.takeWhile_append_of_pos
          (by simpa [Text.isNamePart_of_isNameStart spelled.1] using spelled.2)]
        cases rest with
        | nil => simp
        | cons d rest => simp [ends d (by simp)]
      apply ReadsAs.token (Text.visible_of_code (by omega) (by omega))
      · apply usual.staysInside <;> (rintro rfl; revert code; decide)
      · intro mark
        refine ⟨mark.past (c :: others), ?_⟩
        rw [← lexemeToken_append]
        simp [tagToken, noQuote, number, lexeme]

theorem number (usual : tag.IsUsual) {c : Char} {others : List Char} (digit : c.isDigit)
    (spelled : numberLexeme (c :: others ++ rest) = c :: others) :
    ReadsAs tag (c :: others) rest [(.number, String.ofList (c :: others))] := by
  have code := Text.isDigit_code digit
  have noQuote : ¬ (c = '\'' ∨ c = '"') := by
    rintro (rfl | rfl) <;> revert code <;> decide
  apply ReadsAs.token (Text.visible_of_code (by omega) (by omega))
  · apply usual.staysInside <;> (rintro rfl; revert code; decide)
  · intro mark
    refine ⟨mark.past (c :: others), ?_⟩
    rw [← lexemeToken_append]
    rw [List.cons_append] at spelled
    simp [tagToken, noQuote, spelled]

theorem symbol (symbol : String) {c : Char} {others : List Char} {kind : TokenKind}
    (text : symbol.toList = c :: others) (visible : Text.isBlank c = false)
    (noQuote : c ≠ '\'' ∧ c ≠ '"') (noNumber : Text.isDecimal c = false)
    (noName : Text.isNameStart c = false) (inside : StaysInside tag (c :: others ++ rest))
    (found : (symbols.find? fun entry => entry.1.toList.isPrefixOf (c :: others ++ rest)) =
      some (symbol, kind)) :
    ReadsAs tag symbol.toList rest [(kind, symbol)] := by
  rw [text]
  apply ReadsAs.token visible inside
  intro mark
  refine ⟨mark.past (c :: others), ?_⟩
  have value : symbol = String.ofList (c :: others) := by rw [← text, String.ofList_toList]
  rw [value, ← lexemeToken_append]
  rw [List.cons_append] at found
  simp [tagToken, noQuote, numberLexeme, nameLexeme, noNumber, noName, Reader.startsWith, found,
    text]

/-- A blank behind an operator or a punctuation mark keeps it from going on. -/
theorem symbolBlank (usual : tag.IsUsual) (rest : List Char) :
    ∀ entry ∈ symbols, ReadsAs tag (entry.1.toList ++ [' ']) rest [(entry.2, entry.1)] := by
  have spaced : ∀ entry ∈ symbols,
      ReadsAs tag entry.1.toList (' ' :: rest) [(entry.2, entry.1)] := by
    simp only [Lexer.symbols, List.forall_mem_cons]
    rcases usual with close | close <;> and_intros
    all_goals
      first
      | exact ReadsAs.symbol _ rfl rfl (by decide) rfl rfl
          (by rw [StaysInside, close]; exact ⟨rfl, rfl⟩) rfl
      | simp
  intro entry known
  exact (spaced entry known).append ReadsAs.blank

/-- Marks that no other symbol starts with, so they need no blank behind them. -/
def punctuation : List (String × TokenKind) :=
  [(",", .comma), (".", .dot), (":", .colon), ("(", .leftParen), (")", .rightParen),
    ("[", .leftBracket), ("]", .rightBracket)]

theorem mark (usual : tag.IsUsual) (rest : List Char) :
    ∀ entry ∈ punctuation, ReadsAs tag entry.1.toList rest [(entry.2, entry.1)] := by
  simp only [punctuation, List.forall_mem_cons]
  rcases usual with close | close <;> and_intros
  all_goals
    first
    | exact ReadsAs.symbol _ rfl rfl (by decide) rfl rfl
        (by rw [StaysInside, close]; exact ⟨rfl, rfl⟩) rfl
    | simp

/-- A sign stays one unless the tag ends right behind it. -/
theorem sign (inside : StaysInside tag ('-' :: rest)) :
    ReadsAs tag ['-'] rest [(.operator, "-")] :=
  ReadsAs.symbol "-" rfl rfl (by decide) rfl rfl inside rfl

theorem string (usual : tag.IsUsual) (text : String) :
    ReadsAs tag (Canonical.string text).toList rest [(.string, text)] := by
  have spelled : (Canonical.string text).toList =
      '"' :: (text.toList.flatMap Canonical.stringChar ++ ['"']) := by
    simp [Canonical.string]
  rw [spelled]
  refine ReadsAs.token rfl (usual.staysInside (by decide) (by decide) (by decide)) ?_
  intro mark
  obtain ⟨after, read⟩ := stringBody_string (mark.step '"') text.toList rest
  exact ⟨after, by simp [tagToken, stringToken, read]⟩

end ReadsAs

end Lexer

end Templating
