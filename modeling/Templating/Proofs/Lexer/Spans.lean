import Mathlib.Data.List.Chain
import Templating.Proofs.Lexer.Places
import Templating.Proofs.Lexer.Sound

/-!
The stretches of the source that tokens are read from, and what lies between two of them in a tag.
-/

namespace Templating

namespace TokenKind

def opensTag : TokenKind → Bool
  | expressionOpen | blockOpen => true
  | _ => false

def closesTag : TokenKind → Bool
  | expressionClose | blockClose => true
  | _ => false

/-- Behind a token of this kind a tag goes on. -/
def insideTag : TokenKind → Bool
  | text | endOfInput | expressionClose | blockClose => false
  | _ => true

end TokenKind

namespace Lexer

/-- What a string literal spells between its quotes. -/
inductive Spells (quote : Char) : List Char → List Char → Prop where
  | nil : Spells quote [] []
  | plain {c : Char} {body value : List Char} (noQuote : c ≠ quote) (noEscape : c ≠ '\\')
      (others : Spells quote body value) : Spells quote (c :: body) (c :: value)
  | escape {c replacement : Char} {body value : List Char}
      (known : escapes.lookup c = some replacement) (others : Spells quote body value) :
      Spells quote ('\\' :: c :: body) (replacement :: value)

/-- The source of a token is its value, except that a string stands in quotes with its escapes, and
that a text may have been trimmed and unescaped. -/
def Covers (token : Token) (text : List Char) : Prop :=
  match token.kind with
  | .text => True
  | .string => ∃ quote body, (quote = '\'' ∨ quote = '"') ∧ text = quote :: (body ++ [quote]) ∧
      Spells quote body token.value.toList
  | _ => text = token.value.toList

theorem covers_of_eq {token : Token} {text : List Char} (other : token.kind ≠ .string)
    (same : text = token.value.toList) : Covers token text := by
  unfold Covers
  split
  · trivial
  · rename_i kind
    exact absurd kind other
  · exact same

/-- A token and the stretch of the source that it is read from. -/
structure Span where
  token : Token
  start : Nat
  stop : Nat

/-- The token starts at its place and covers the stretch. -/
structure Span.Fits (source : List Char) (span : Span) : Prop where
  mark : span.token.mark = .behind (source.take span.start)
  covers : Covers span.token (source.extract span.start span.stop)

/-- Blanks, a hyphen before them if a tag opens there, and one behind them if it closes there. -/
def Gap (opens closes : Bool) (text : List Char) : Prop :=
  ∃ marker blanks trim, text = marker ++ blanks ++ trim ∧
    (marker = [] ∨ opens = true ∧ marker = ['-']) ∧ (∀ c ∈ blanks, Text.isBlank c = true) ∧
    (trim = [] ∨ closes = true ∧ trim = ['-'])

/-- One span comes behind the other, in a tag with nothing but a gap between them. -/
structure Follows (source : List Char) (left right : Span) : Prop where
  order : left.stop ≤ right.start
  gap : left.token.kind.insideTag = true →
    Gap left.token.kind.opensTag right.token.kind.closesTag (source.extract left.stop right.start)

/-- The spans are laid out one behind the other in this stretch of the source. -/
structure Layout (source : List Char) (i : Nat) (spans : List Span) (j : Nat) : Prop where
  fits : ∀ span ∈ spans, span.Fits source
  nonempty : ∀ span ∈ spans, span.start < span.stop
  within : ∀ span ∈ spans, i ≤ span.start ∧ span.stop ≤ j
  chain : spans.IsChain (Follows source)

namespace Layout

variable {source : List Char} {i j k : Nat} {left right : List Span}

theorem nil : Layout source i [] j :=
  ⟨List.forall_mem_nil _, List.forall_mem_nil _, List.forall_mem_nil _, .nil⟩

theorem singleton {span : Span} (fits : span.Fits source) (nonempty : span.start < span.stop)
    (start : i ≤ span.start) (stop : span.stop ≤ j) : Layout source i [span] j :=
  ⟨List.forall_mem_singleton.mpr fits, List.forall_mem_singleton.mpr nonempty,
    List.forall_mem_singleton.mpr ⟨start, stop⟩, .singleton _⟩

theorem append (first : Layout source i left j) (second : Layout source j right k)
    (before : i ≤ j) (after : j ≤ k)
    (seam : ∀ last ∈ left.getLast?, ∀ next ∈ right.head?, last.token.kind.insideTag = true →
      Gap last.token.kind.opensTag next.token.kind.closesTag
        (source.extract last.stop next.start)) :
    Layout source i (left ++ right) k where
  fits := List.forall_mem_append.mpr ⟨first.fits, second.fits⟩
  nonempty := List.forall_mem_append.mpr ⟨first.nonempty, second.nonempty⟩
  within := by
    refine List.forall_mem_append.mpr ⟨fun span member => ?_, fun span member => ?_⟩
    · have bounds := first.within span member
      omega
    · have bounds := second.within span member
      omega
  chain := by
    refine List.isChain_append.mpr ⟨first.chain, second.chain, fun last lastly next firstly => ?_⟩
    have stop := first.within last (List.mem_of_getLast? lastly)
    have start := second.within next (List.mem_of_head? firstly)
    exact ⟨by omega, seam last lastly next firstly⟩

end Layout

theorem stringBody_spells {quote : Char} {mark : Mark} {text value : List Char} {after : Reader}
    (read : stringBody quote mark text = .ok (value, after)) :
    ∃ body, Reader.Passes ⟨text, mark⟩ (body ++ [quote]) after ∧ Spells quote body value := by
  fun_induction stringBody quote mark text generalizing value after with
  | case1 => cases read
  | case2 mark rest =>
      cases read
      exact ⟨[], ⟨rfl, rfl⟩, .nil⟩
  | case3 mark different => cases read
  | case4 mark escaped rest unknown different => cases read
  | case5 mark escaped rest replacement known different ih =>
      obtain ⟨result, inner, same⟩ := Outcome.map_eq_ok.mp read
      cases same
      obtain ⟨body, passes, spells⟩ := ih inner
      have step : Reader.Passes ⟨'\\' :: escaped :: rest, mark⟩ ['\\', escaped]
          ⟨rest, (mark.step '\\').step escaped⟩ := ⟨rfl, rfl⟩
      exact ⟨'\\' :: escaped :: body, step.trans passes, .escape known spells⟩
  | case6 mark c rest different plain ih =>
      obtain ⟨result, inner, same⟩ := Outcome.map_eq_ok.mp read
      cases same
      obtain ⟨body, passes, spells⟩ := ih inner
      have step : Reader.Passes ⟨c :: rest, mark⟩ [c] ⟨rest, mark.step c⟩ := ⟨rfl, rfl⟩
      exact ⟨c :: body, step.trans passes, .plain different plain spells⟩

/-- A token is read from the text that it covers, where the reader stands. -/
def ReadFrom (reader : Reader) (token : Token) (text : List Char) (after : Reader) : Prop :=
  text ≠ [] ∧ reader.Passes text after ∧ token.mark = reader.mark ∧ Covers token text

theorem readFrom_lexeme {reader : Reader} {kind : TokenKind} {lexeme : List Char}
    (plain : kind ≠ .string) (nonempty : lexeme ≠ []) (starts : lexeme <+: reader.rest) :
    ReadFrom reader (lexemeToken kind lexeme reader).1 lexeme
      (lexemeToken kind lexeme reader).2 :=
  ⟨nonempty, Reader.passes_of_isPrefix starts, rfl,
    covers_of_eq plain String.toList_ofList.symm⟩

theorem stringToken_readFrom {tag : TagEnd} {quote : Char} {reader after : Reader} {token : Token}
    (starts : reader.rest.head? = some quote) (quotes : quote = '\'' ∨ quote = '"')
    (read : stringToken tag quote reader = .ok (token, after)) :
    ∃ text, ReadFrom reader token text after := by
  unfold stringToken at read
  split at read
  case h_1 value found body =>
    cases read
    obtain ⟨inner, passes, spells⟩ := stringBody_spells body
    have first : reader.Passes [quote] ⟨reader.rest.drop 1, reader.mark.step quote⟩ :=
      ⟨by simpa using (List.cons_head?_tail starts).symm, rfl⟩
    exact ⟨quote :: (inner ++ [quote]), List.cons_ne_nil _ _, first.trans passes, rfl,
      quote, inner, quotes, rfl, String.toList_ofList ▸ spells⟩
  all_goals cases read

theorem wordKind_ne_string (word : String) : wordKind word ≠ .string := by
  intro same
  have kinds := wordKind_cases word
  rw [same] at kinds
  simp at kinds

theorem symbols_ne_string : ∀ symbol ∈ symbols, symbol.2 ≠ .string := by
  decide

theorem tagToken_readFrom {tag : TagEnd} {reader after : Reader} {token : Token}
    (read : tagToken tag reader = .ok (token, after)) :
    ∃ text, ReadFrom reader token text after := by
  unfold tagToken at read
  split at read
  · cases read
  case h_2 c rest starts =>
    split at read
    case isTrue quotes =>
      exact stringToken_readFrom (by rw [starts]; rfl) (by simpa using quotes) read
    · split at read
      case isTrue number =>
        cases read
        exact ⟨_, readFrom_lexeme (by decide) (by simpa using number) (numberLexeme_isPrefix _)⟩
      · split at read
        case isTrue name =>
          cases read
          exact ⟨_, readFrom_lexeme (wordKind_ne_string _) (by simpa using name)
            (nameLexeme_isPrefix _)⟩
        · split at read
          case h_1 symbol kind found =>
            cases read
            have member := List.mem_of_find?_eq_some found
            have starts : reader.startsWith symbol.toList = true :=
              List.find?_some (p := fun symbol : String × TokenKind =>
                reader.startsWith symbol.1.toList) found
            exact ⟨_, readFrom_lexeme (symbols_ne_string _ member) (symbols_nonempty _ member)
              (List.isPrefixOf_iff_prefix.mp starts)⟩
          · cases read

/-- The span of a token that is read here. -/
theorem ReadFrom.span {source : List Char} {i : Nat} {reader after : Reader} {token : Token}
    {text : List Char} (read : ReadFrom reader token text after) (located : reader.At source i) :
    Span.Fits source ⟨token, i, i + text.length⟩ ∧ i < i + text.length ∧
      after.At source (i + text.length) := by
  obtain ⟨nonempty, passes, mark, covers⟩ := read
  obtain ⟨locatedAfter, taken⟩ := located.passes passes
  have positive := List.length_pos_iff.mpr nonempty
  exact ⟨⟨mark.trans located.mark, taken.symm ▸ covers⟩, by omega, locatedAfter⟩

/-- What is left of a tag: spans up to its end, behind a gap. -/
structure TagLayout (source : List Char) (i : Nat) (spans : List Span) (j : Nat) : Prop where
  layout : Layout source i spans j
  order : i ≤ j
  first : ∃ first ∈ spans.head?, i ≤ first.start ∧
    Gap false first.token.kind.closesTag (source.extract i first.start)
  last : ∃ last ∈ spans.getLast?, last.token.kind.closesTag = true

theorem Gap.trimmed {blanks trim : List Char} {closes : Bool}
    (blank : ∀ c ∈ blanks, Text.isBlank c = true) (trims : trim = [] ∨ closes = true ∧ trim = ['-']) :
    Gap false closes (blanks ++ trim) :=
  ⟨[], blanks, trim, rfl, .inl rfl, blank, trims⟩

theorem Gap.marked {closes : Bool} {marker text : List Char} (gap : Gap false closes text)
    (marked : marker = [] ∨ marker = ['-']) : Gap true closes (marker ++ text) := by
  obtain ⟨_, blanks, trim, rfl, rfl | ⟨impossible, _⟩, blank, trims⟩ := gap
  · exact ⟨marker, blanks, trim, by simp, marked.imp_right fun same => ⟨rfl, same⟩, blank, trims⟩
  · cases impossible

theorem Gap.ofClosed {opens closes : Bool} {text : List Char} (gap : Gap false closes text) :
    Gap opens closes text := by
  obtain ⟨marker, blanks, trim, same, rfl | ⟨impossible, _⟩, blank, trims⟩ := gap
  · exact ⟨[], blanks, trim, same, .inl rfl, blank, trims⟩
  · cases impossible

/-- One more token before the rest of a tag. -/
theorem TagLayout.cons {source : List Char} {i j : Nat} {span : Span} {spans : List Span}
    (layout : TagLayout source span.stop spans j) (fits : span.Fits source)
    (nonempty : span.start < span.stop) (start : i ≤ span.start)
    (gap : Gap false span.token.kind.closesTag (source.extract i span.start)) :
    TagLayout source i (span :: spans) j where
  layout := by
    refine (Layout.singleton fits nonempty start (Nat.le_refl _)).append layout.layout
      (by omega) layout.order fun last lastly next firstly _ => ?_
    cases lastly
    obtain ⟨first, head, _, gapNext⟩ := layout.first
    cases head.symm.trans firstly
    exact gapNext.ofClosed
  order := by
    have order := layout.order
    omega
  first := ⟨span, rfl, start, gap⟩
  last := by
    obtain ⟨last, lastly, closes⟩ := layout.last
    refine ⟨last, ?_, closes⟩
    rw [List.getLast?_cons, Option.mem_def.mp lastly]
    rfl

theorem takeWhile_blank (text : List Char) :
    ∀ c ∈ text.takeWhile Text.isBlank, Text.isBlank c = true :=
  fun _ member => List.mem_takeWhile_imp member

theorem closesTag_ne_string {kind : TokenKind} (closes : kind.closesTag = true) :
    kind ≠ .string := by
  rintro rfl
  cases closes

/-- The closing delimiter alone is the rest of a tag, behind blanks and a hyphen at most. -/
theorem tagLayout_close {source : List Char} {i : Nat} {reader start : Reader} {kind : TokenKind}
    {close blanks trim : List Char} (located : reader.At source i) (closes : kind.closesTag = true)
    (nonempty : close ≠ []) (blank : ∀ c ∈ blanks, Text.isBlank c = true)
    (trims : trim = [] ∨ trim = ['-']) (passed : reader.Passes (blanks ++ trim) start)
    (starts : close <+: start.rest) :
    ∃ span j, span.token = (lexemeToken kind close start).1 ∧ TagLayout source i [span] j ∧
      (lexemeToken kind close start).2.At source j := by
  obtain ⟨locatedStart, taken⟩ := located.passes passed
  have read := readFrom_lexeme (closesTag_ne_string closes) nonempty starts
  obtain ⟨fits, shorter, locatedAfter⟩ := read.span locatedStart
  refine ⟨_, _, rfl, ⟨.singleton fits shorter (Nat.le_add_right _ _) (Nat.le_refl _),
    Nat.le_trans (Nat.le_add_right _ _) (Nat.le_add_right _ _),
    ⟨_, rfl, Nat.le_add_right _ _, ?_⟩, ⟨_, rfl, closes⟩⟩, locatedAfter⟩
  dsimp only
  rw [taken]
  exact .trimmed blank (trims.imp_right fun same => ⟨closes, same⟩)

theorem tagTokens_layout {tag : TagEnd} (closes : tag.kind.closesTag = true)
    (nonempty : tag.close ≠ []) {source : List Char} {i budget : Nat} {reader after : Reader}
    {tokens : List Token} {trims : Bool} (located : reader.At source i)
    (read : tagTokens tag budget reader = .ok (tokens, trims, after)) :
    ∃ spans j, spans.map (·.token) = tokens ∧ TagLayout source i spans j ∧ after.At source j := by
  induction budget generalizing i reader tokens with
  | zero => cases read
  | succ budget ih =>
      have blanks := reader.passes_skipBlanks
      have blank := takeWhile_blank reader.rest
      simp only [tagTokens] at read
      split at read
      · cases read
      · split at read
        case isTrue trimmed =>
          cases read
          obtain ⟨others, spelled⟩ := List.isPrefixOf_iff_prefix.mp trimmed
          have hyphen : reader.skipBlanks.Passes ['-'] (reader.skipBlanks.skip 1) :=
            Reader.passes_of_isPrefix ⟨tag.close ++ others, spelled⟩
          have starts : tag.close <+: (reader.skipBlanks.skip 1).rest := by
            rw [Reader.skip, ← spelled]
            exact ⟨others, rfl⟩
          obtain ⟨span, j, same, layout, locatedAfter⟩ := tagLayout_close located closes nonempty
            blank (.inr rfl) (blanks.trans hyphen) starts
          exact ⟨[span], j, congrArg (· :: []) same, layout, locatedAfter⟩
        case isFalse =>
          split at read
          case isTrue plain =>
            cases read
            obtain ⟨span, j, same, layout, locatedAfter⟩ := tagLayout_close located closes nonempty
              blank (.inl rfl) (by simpa using blanks) (List.isPrefixOf_iff_prefix.mp plain)
            exact ⟨[span], j, congrArg (· :: []) same, layout, locatedAfter⟩
          case isFalse =>
            obtain ⟨⟨token, next⟩, first, rest⟩ := Outcome.bind_eq_ok.mp read
            obtain ⟨⟨others, ends⟩, inner, same⟩ := Outcome.bind_eq_ok.mp rest
            cases same
            obtain ⟨text, readFrom⟩ := tagToken_readFrom first
            obtain ⟨locatedStart, taken⟩ := located.passes blanks
            obtain ⟨fits, shorter, locatedNext⟩ := readFrom.span locatedStart
            obtain ⟨spans, j, rfl, layout, locatedAfter⟩ := ih locatedNext inner
            refine ⟨_ :: spans, j, rfl, layout.cons fits shorter (Nat.le_add_right _ _) ?_,
              locatedAfter⟩
            dsimp only
            rw [taken, ← List.append_nil (List.takeWhile _ _)]
            exact .trimmed blank (.inl rfl)

end Lexer

end Templating
