import Templating.Proofs.Number.Reading

/-!
What the tokens of a source text are: identifiers are names that are not reserved, numbers start
with a digit, and texts are not empty. The end of input comes last and nowhere else.
-/

namespace Templating

/-- What a token of this kind always is. -/
def Token.Sound (token : Token) : Prop :=
  match token.kind with
  | .identifier => IsIdentifier token.value
  | .number => ∃ c rest, token.value.toList = c :: rest ∧ Text.isDecimal c
  | .text => token.value ≠ ""
  | _ => True

/-- What a token before the end of input always is. -/
structure Token.Inner (token : Token) : Prop where
  sound : token.Sound
  inside : token.kind ≠ .endOfInput

namespace Lexer

theorem isName_nameLexeme {text : List Char} (some : nameLexeme text ≠ []) :
    Text.isName (nameLexeme text) := by
  cases text with
  | nil => exact absurd rfl some
  | cons c rest =>
      rw [nameLexeme] at some ⊢
      split
      case isTrue start =>
        rw [List.takeWhile_cons_of_pos (Text.isNamePart_of_isNameStart start), Text.isName, start,
          Bool.true_and, List.all_eq_true]
        exact fun c member => List.mem_takeWhile_imp member
      case isFalse other => rw [if_neg other] at some; exact absurd rfl some

theorem isIdentifier_of_wordKind {word : String} (name : Text.isName word.toList)
    (kind : wordKind word = .identifier) : IsIdentifier word := by
  refine ⟨name, ?_⟩
  unfold wordKind at kind
  split at kind
  · cases kind
  · split at kind
    · cases kind
    · split at kind
      · cases kind
      case isFalse boolean null keyword =>
        simp only [List.contains_eq_mem, decide_eq_true_eq] at boolean null keyword
        simp [reservedWords, boolean, null, keyword]

theorem wordKind_cases (word : String) :
    wordKind word ∈ [.boolean, .null, .keyword, .identifier] := by
  unfold wordKind
  split
  · decide
  · split
    · decide
    · split <;> decide

theorem symbol_inner (mark : Mark) :
    ∀ symbol ∈ symbols, Token.Inner ⟨symbol.2, symbol.1, mark⟩ := by
  have sound : ∀ symbol ∈ symbols, Token.Sound ⟨symbol.2, symbol.1, mark⟩ := by
    simp [symbols, Token.Sound]
  have inside : ∀ symbol ∈ symbols, symbol.2 ≠ .endOfInput := by decide
  exact fun symbol member => ⟨sound symbol member, inside symbol member⟩

theorem tagToken_inner {tag : TagEnd} {reader after : Reader} {token : Token}
    (read : tagToken tag reader = .ok (token, after)) : token.Inner := by
  unfold tagToken at read
  split at read
  · cases read
  case h_2 c rest starts =>
    split at read
    · unfold stringToken at read
      split at read <;> cases read
      exact ⟨trivial, by simp⟩
    · split at read
      case isTrue some =>
        cases read
        obtain ⟨first, others, spelled, decimal⟩ := Numeral.numberLexeme_cons
          reader.rest (by simpa using some)
        exact ⟨⟨first, others, String.toList_ofList.trans spelled, decimal⟩, by simp⟩
      case isFalse =>
        split at read
        case isTrue word =>
          cases read
          have some : nameLexeme reader.rest ≠ [] := by simpa using word
          have name : Text.isName (String.ofList (nameLexeme reader.rest)).toList := by
            rw [String.toList_ofList]
            exact isName_nameLexeme some
          have kinds := wordKind_cases (String.ofList (nameLexeme reader.rest))
          have identifier := isIdentifier_of_wordKind name
          generalize wordKind (String.ofList (nameLexeme reader.rest)) = kind at kinds identifier
          simp only [List.mem_cons, List.not_mem_nil, or_false] at kinds
          rcases kinds with rfl | rfl | rfl | rfl
          · exact ⟨trivial, by simp⟩
          · exact ⟨trivial, by simp⟩
          · exact ⟨trivial, by simp⟩
          · exact ⟨identifier rfl, by simp⟩
        case isFalse =>
          split at read
          case h_1 symbol kind found =>
            cases read
            have inner := symbol_inner reader.mark _ (List.mem_of_find?_eq_some found)
            simpa [lexemeToken] using inner
          · cases read

theorem tagTokens_inner {tag : TagEnd} (close : tag.kind = .expressionClose ∨ tag.kind = .blockClose)
    {budget : Nat} {reader after : Reader} {tokens : List Token} {trims : Bool}
    (read : tagTokens tag budget reader = .ok (tokens, trims, after)) :
    ∀ token ∈ tokens, token.Inner := by
  have closing : ∀ (value : String) (mark : Mark), Token.Inner ⟨tag.kind, value, mark⟩ := by
    intro value mark
    rcases close with kind | kind <;> (rw [kind]; exact ⟨trivial, by simp⟩)
  induction budget generalizing reader tokens with
  | zero => cases read
  | succ budget ih =>
      simp only [tagTokens] at read
      split at read
      · cases read
      · split at read
        · cases read
          exact List.forall_mem_singleton.mpr (closing _ _)
        · split at read
          · cases read
            exact List.forall_mem_singleton.mpr (closing _ _)
          · obtain ⟨first, token, rest⟩ := Outcome.bind_eq_ok.mp read
            obtain ⟨⟨others, ends⟩, inner, same⟩ := Outcome.bind_eq_ok.mp rest
            cases same
            exact List.forall_mem_cons.mpr ⟨tagToken_inner token, ih inner⟩

theorem tagOrComment_inner {delimiters : Delimiters} {opener : List Char} {budget : Nat}
    {reader after : Reader} {tokens : List Token} {trims : Bool}
    (read : tagOrComment delimiters opener budget reader = .ok (tokens, trims, after)) :
    ∀ token ∈ tokens, token.Inner := by
  have whole : ∀ openKind closeKind close, openKind = .expressionOpen ∨ openKind = .blockOpen →
      closeKind = .expressionClose ∨ closeKind = .blockClose →
      tag openKind closeKind opener close budget reader = .ok (tokens, trims, after) →
      ∀ token ∈ tokens, token.Inner := by
    intro openKind closeKind close opens closes read
    obtain ⟨⟨others, ends⟩, inner, same⟩ := Outcome.bind_eq_ok.mp read
    cases same
    refine List.forall_mem_cons.mpr ⟨?_, tagTokens_inner closes inner⟩
    rcases opens with rfl | rfl <;> exact ⟨trivial, by simp⟩
  unfold tagOrComment at read
  split at read
  · obtain ⟨_, _, same⟩ := Outcome.map_eq_ok.mp read
    cases same
    simp
  · split at read
    · exact whole _ _ _ (.inl rfl) (.inl rfl) read
    · exact whole _ _ _ (.inr rfl) (.inr rfl) read

theorem textToken_inner (openers : List (List Char)) (trims : Bool) (reader : Reader) :
    ∀ token ∈ (textToken openers trims reader).1, token.Inner := by
  simp only [textToken]
  split
  · simp
  case isFalse something =>
    refine List.forall_mem_singleton.mpr ⟨fun empty => something ?_, by simp⟩
    rw [List.isEmpty_iff]
    simpa using empty

theorem tokensFrom_closed {delimiters : Delimiters} {openers : List (List Char)} {budget : Nat}
    {trims : Bool} {reader : Reader} {tokens : List Token}
    (read : tokensFrom delimiters openers budget trims reader = .ok tokens) :
    ∃ before mark, tokens = before ++ [⟨.endOfInput, "", mark⟩] ∧ ∀ token ∈ before, token.Inner := by
  induction budget generalizing trims reader tokens with
  | zero =>
      cases read
      exact ⟨[], reader.mark, rfl, List.forall_mem_nil _⟩
  | succ budget ih =>
      have text := textToken_inner openers trims reader
      simp only [tokensFrom] at read
      split at read
      · cases read
        exact ⟨_, _, rfl, text⟩
      · obtain ⟨⟨tag, trims, after⟩, readTag, rest⟩ := Outcome.bind_eq_ok.mp read
        obtain ⟨others, inner, same⟩ := Outcome.bind_eq_ok.mp rest
        cases same
        obtain ⟨before, mark, rfl, all⟩ := ih inner
        exact ⟨_, mark, (List.append_assoc _ _ _).symm, List.forall_mem_append.mpr
          ⟨List.forall_mem_append.mpr ⟨text, tagOrComment_inner readTag⟩, all⟩⟩

theorem tokens_of_tokenize {delimiters : Delimiters} {name source : String} {tokens : List Token}
    (read : tokenize delimiters name source = .ok tokens) :
    Lexer.tokens delimiters source = .ok tokens := by
  unfold tokenize at read
  split at read <;> cases read
  assumption

/-- The tokens of a source text end with the end of input, which stands nowhere else. -/
theorem tokens_closed {delimiters : Delimiters} {source : String} {tokens : List Token}
    (read : Lexer.tokens delimiters source = .ok tokens) :
    ∃ before mark, tokens = before ++ [⟨.endOfInput, "", mark⟩] ∧ ∀ token ∈ before, token.Inner :=
  tokensFrom_closed read

/-- Every token of a source text is sound. -/
theorem tokens_sound {delimiters : Delimiters} {source : String} {tokens : List Token}
    (read : Lexer.tokens delimiters source = .ok tokens) : ∀ token ∈ tokens, token.Sound := by
  obtain ⟨before, mark, rfl, all⟩ := tokens_closed read
  exact List.forall_mem_append.mpr
    ⟨fun token member => (all token member).sound, List.forall_mem_singleton.mpr trivial⟩

end Lexer

end Templating
