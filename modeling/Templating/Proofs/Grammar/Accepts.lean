import Mathlib.Data.List.Nodup
import Templating.Grammar.Expression
import Templating.Proofs.Lexer.Inside

/-!
Parsers as steps over tokens. A parser accepts lexemes when, given tokens with these lexemes, it
passes just them and succeeds, whatever comes after the token behind them. On its way it opens the
blocks it is said to open, and no others. It may be allowed to refuse, such as where a limit cuts it
off.
-/

namespace Templating

namespace Cursor

/-- The same cursor before other tokens. -/
def before (cursor : Cursor) (rest : List Token) : Cursor :=
  { cursor with rest := rest }

/-- The same cursor with other blocks open. -/
def opening (cursor : Cursor) (blocks : List (String × Mark)) : Cursor :=
  { cursor with blocks := blocks }

/-- The names of the blocks that have been opened. -/
def opened (cursor : Cursor) : List String :=
  cursor.blocks.map (·.1)

@[simp] theorem before_template (cursor : Cursor) (rest : List Token) :
    (cursor.before rest).template = cursor.template :=
  rfl

@[simp] theorem current_before_cons (cursor : Cursor) (token : Token) (rest : List Token) :
    (cursor.before (token :: rest)).current = token :=
  rfl

@[simp] theorem next_before_cons (cursor : Cursor) (first second : Token) (rest : List Token) :
    (cursor.before (first :: second :: rest)).next = second :=
  rfl

theorem advance_before_cons (cursor : Cursor) {token : Token} (rest : List Token)
    (inside : token.kind ≠ .endOfInput) :
    (cursor.before (token :: rest)).advance = cursor.before rest := by
  rw [advance, current_before_cons, if_neg inside]
  rfl

end Cursor

namespace Parser

variable {α β : Type}

@[simp] theorem bind_apply (parser : Parser α) (next : α → Parser β) (cursor : Cursor) :
    (parser >>= next) cursor = parser cursor >>= fun result => next result.1 result.2 :=
  rfl

@[simp] theorem pure_apply (value : α) (cursor : Cursor) :
    (pure value : Parser α) cursor = .ok (value, cursor) :=
  rfl

@[simp] theorem current_apply (cursor : Cursor) : current cursor = .ok (cursor.current, cursor) :=
  rfl

@[simp] theorem next_apply (cursor : Cursor) : next cursor = .ok (cursor.next, cursor) :=
  rfl

@[simp] theorem size_apply (cursor : Cursor) : size cursor = .ok (cursor.size, cursor) :=
  rfl

@[simp] theorem advance_apply (cursor : Cursor) :
    advance cursor = .ok (cursor.current, cursor.advance) :=
  rfl

@[simp] theorem positionOf_apply (token : Token) (cursor : Cursor) :
    positionOf token cursor = .ok (some (token.position cursor.template), cursor) :=
  rfl

@[simp] theorem refuse_apply (cause : GrammarCause) (token : Token) (cursor : Cursor) :
    (refuse cause token : Parser α) cursor = .error (cause, token) :=
  rfl

@[simp] theorem ite_apply (condition : Prop) [Decidable condition] (yes no : Parser α)
    (cursor : Cursor) :
    (if condition then yes else no) cursor = if condition then yes cursor else no cursor := by
  split <;> rfl

theorem accept_apply (kind : TokenKind) (cursor : Cursor) :
    accept kind cursor =
      if cursor.current.kind = kind then .ok (true, cursor.advance) else .ok (false, cursor) := by
  unfold accept
  simp only [bind_apply, current_apply, Outcome.ok_bind, ite_apply, advance_apply, pure_apply]

theorem expect_apply (kind : TokenKind) (what : String) (cursor : Cursor) :
    expect kind what cursor =
      if cursor.current.kind = kind then .ok (cursor.current, cursor.advance)
      else .error (.unexpected cursor.current.describe (some what), cursor.current) := by
  unfold expect
  simp only [bind_apply, current_apply, Outcome.ok_bind, ite_apply, advance_apply, unexpected,
    refuse_apply]

end Parser

namespace Grammar

open Templating.Parser

variable {α β : Type}

/-- The parser has passed all tokens up to these and gives such a result, with blocks of these names
opened, or it refuses in a way that is allowed. -/
def Settles (refusals : Refusal → Prop) (result : α → Prop) (names : List String) (cursor : Cursor)
    (rest : List Token) (outcome : Except Refusal (α × Cursor)) : Prop :=
  (∃ value blocks, result value ∧ (blocks.map (·.1)).Perm (cursor.opened ++ names) ∧
    outcome = .ok (value, (cursor.opening blocks).before rest)) ∨
  ∃ refusal, outcome = .error refusal ∧ refusals refusal

/-- Given tokens with these lexemes and a token behind them, the parser passes just the tokens and
gives such a result, if it does not refuse in a way that is allowed. If blocks of these names are
still to be opened, it opens them. -/
def Accepts (refusals : Refusal → Prop) (parser : Parser α) (lexemes : List Lexeme)
    (next : Lexeme → Prop) (result : α → Prop) (names : List String := []) : Prop :=
  ∀ (cursor : Cursor) (tokens : List Token) (following : Token) (rest : List Token),
    tokens.map Token.lexeme = lexemes → next following.lexeme →
      tokens.length + rest.length < cursor.size → (cursor.opened ++ names).Nodup →
        Settles refusals result names cursor (following :: rest)
          (parser (cursor.before (tokens ++ following :: rest)))

theorem exists_token {tokens : List Token} {kind : TokenKind} {value : String}
    {lexemes : List Lexeme} (same : tokens.map Token.lexeme = (kind, value) :: lexemes) :
    ∃ mark rest, tokens = ⟨kind, value, mark⟩ :: rest ∧ rest.map Token.lexeme = lexemes := by
  cases tokens with
  | nil => cases same
  | cons token rest =>
      obtain ⟨first, others⟩ := List.cons.inj same
      obtain ⟨rfl, rfl⟩ := Prod.mk.inj first
      exact ⟨token.mark, rest, rfl, others⟩

theorem exists_append {tokens : List Token} {first second : List Lexeme}
    (same : tokens.map Token.lexeme = first ++ second) :
    ∃ left right, tokens = left ++ right ∧ left.map Token.lexeme = first ∧
      right.map Token.lexeme = second :=
  List.map_eq_append_iff.mp same

namespace Accepts

variable {refusals : Refusal → Prop} {lexemes more : List Lexeme} {lexeme : Lexeme}
  {stop between : Lexeme → Prop} {result : β → Prop} {names others : List String}

theorem pure {value : β} (holds : result value) :
    Accepts refusals (pure value : Parser β) [] stop result := by
  intro cursor tokens following rest same _ _ _
  rw [List.map_eq_nil_iff.mp same]
  exact .inl ⟨value, cursor.blocks, holds, by simp [Cursor.opened], rfl⟩

theorem refuse {cause : GrammarCause} {token : Token} (allowed : refusals (cause, token)) :
    Accepts refusals (Parser.refuse cause token : Parser β) lexemes stop result names :=
  fun _ _ _ _ _ _ _ _ => .inr ⟨_, rfl, allowed⟩

theorem mono {parser : Parser β} {weaker : Lexeme → Prop} {stronger : β → Prop}
    (accepts : Accepts refusals parser lexemes weaker stronger names)
    (ends : ∀ lexeme, stop lexeme → weaker lexeme) (holds : ∀ value, stronger value → result value) :
    Accepts refusals parser lexemes stop result names := by
  intro cursor tokens following rest same stops enough fresh
  rcases accepts cursor tokens following rest same (ends _ stops) enough fresh with
    ⟨value, blocks, stronger, opens, run⟩ | refused
  · exact .inl ⟨value, blocks, holds value stronger, opens, run⟩
  · exact .inr refused

/-- One parser after another, each of which opens blocks; what ends the first is the first lexeme
of the second. -/
theorem bindOpening {parser : Parser α} {onwards : α → Parser β} {first : α → Prop}
    (accepts : Accepts refusals parser lexemes between first names)
    (continues : ∀ value, first value →
      Accepts refusals (onwards value) more stop result others)
    (link : ∀ lexeme, stop lexeme → between (more.head?.getD lexeme)) :
    Accepts refusals (parser >>= onwards) (lexemes ++ more) stop result (names ++ others) := by
  intro cursor tokens following rest same stops enough fresh
  obtain ⟨left, right, rfl, sameLeft, sameRight⟩ := exists_append same
  rw [List.length_append] at enough
  rw [← List.append_assoc] at fresh
  have freshFirst : (cursor.opened ++ names).Nodup := fresh.of_append_left
  have firstRun : Settles refusals first names cursor (right ++ following :: rest)
      (parser (cursor.before (left ++ (right ++ following :: rest)))) := by
    have ends := link _ stops
    cases right with
    | nil =>
        subst sameRight
        exact accepts cursor left following rest sameLeft ends (by simpa using enough) freshFirst
    | cons token right =>
        subst sameRight
        exact accepts cursor left token (right ++ following :: rest) sameLeft ends
          (by simp only [List.length_append, List.length_cons] at enough ⊢; omega) freshFirst
  rw [bind_apply, List.append_assoc]
  rcases firstRun with ⟨value, blocks, holds, opens, run⟩ | ⟨refusal, run, allowed⟩
  · have freshLast : ((cursor.opening blocks).opened ++ others).Nodup :=
      (opens.append_right others).nodup_iff.mpr fresh
    have lastRun := continues value holds (cursor.opening blocks) right following rest sameRight
      stops (by simpa [Cursor.opening] using (by omega : right.length + rest.length < cursor.size))
      freshLast
    rw [run]
    rcases lastRun with ⟨last, blocksLast, good, opensLast, runLast⟩ | refused
    · refine .inl ⟨last, blocksLast, good, ?_, runLast⟩
      rw [← List.append_assoc]
      exact opensLast.trans (opens.append_right others)
    · exact .inr refused
  · exact .inr ⟨refusal, by rw [run]; rfl, allowed⟩

/-- One parser after another, the first of which opens no block. -/
theorem bind {parser : Parser α} {onwards : α → Parser β} {first : α → Prop}
    (accepts : Accepts refusals parser lexemes between first)
    (continues : ∀ value, first value → Accepts refusals (onwards value) more stop result names)
    (link : ∀ lexeme, stop lexeme → between (more.head?.getD lexeme)) :
    Accepts refusals (parser >>= onwards) (lexemes ++ more) stop result names :=
  bindOpening accepts continues link

/-- Every turn of a loop passes a token, so there are more turns than lexemes. -/
theorem size {onwards : Nat → Parser β}
    (accepts : ∀ budget, lexemes.length < budget →
      Accepts refusals (onwards budget) lexemes stop result names) :
    Accepts refusals (Parser.size >>= onwards) lexemes stop result names := by
  intro cursor tokens following rest same stops enough fresh
  have turns : lexemes.length < cursor.size := by
    rw [← same, List.length_map]
    omega
  exact accepts cursor.size turns cursor tokens following rest same stops enough fresh

theorem position {token : Token} {onwards : Option Position → Parser β}
    (accepts : ∀ position, Accepts refusals (onwards position) lexemes stop result names) :
    Accepts refusals (positionOf token >>= onwards) lexemes stop result names := by
  intro cursor tokens following rest same stops enough fresh
  exact accepts _ cursor tokens following rest same stops enough fresh

theorem current {onwards : Token → Parser β}
    (accepts : ∀ token : Token, token.lexeme = lexeme →
      Accepts refusals (onwards token) (lexeme :: lexemes) stop result names) :
    Accepts refusals (Parser.current >>= onwards) (lexeme :: lexemes) stop result names := by
  intro cursor tokens following rest same stops enough fresh
  obtain ⟨mark, others, rfl, _⟩ := exists_token same
  exact accepts _ rfl cursor _ following rest same stops enough fresh

theorem currentEnd {onwards : Token → Parser β}
    (accepts : ∀ token : Token, stop token.lexeme →
      Accepts refusals (onwards token) [] stop result names) :
    Accepts refusals (Parser.current >>= onwards) [] stop result names := by
  intro cursor tokens following rest same stops enough fresh
  obtain rfl := List.map_eq_nil_iff.mp same
  exact accepts following stops cursor [] following rest same stops enough fresh

theorem advance {onwards : Token → Parser β} (inside : lexeme.1 ≠ .endOfInput)
    (accepts : ∀ token : Token, token.lexeme = lexeme →
      Accepts refusals (onwards token) lexemes stop result names) :
    Accepts refusals (Parser.advance >>= onwards) (lexeme :: lexemes) stop result names := by
  intro cursor tokens following rest same stops enough fresh
  obtain ⟨mark, others, rfl, sameOthers⟩ := exists_token same
  have run := accepts ⟨lexeme.1, lexeme.2, mark⟩ rfl cursor others following rest sameOthers stops
    (by simp only [List.length_cons] at enough; omega) fresh
  rw [List.cons_append, bind_apply, advance_apply, Outcome.ok_bind,
    Cursor.advance_before_cons cursor _ inside]
  exact run

theorem expect {kind : TokenKind} {text what : String} {onwards : Token → Parser β}
    (inside : kind ≠ .endOfInput)
    (accepts : ∀ token : Token, token.lexeme = (kind, text) →
      Accepts refusals (onwards token) lexemes stop result names) :
    Accepts refusals (Parser.expect kind what >>= onwards) ((kind, text) :: lexemes) stop result
      names := by
  intro cursor tokens following rest same stops enough fresh
  have run := Accepts.advance inside accepts cursor tokens following rest same stops enough fresh
  obtain ⟨mark, others, rfl, _⟩ := exists_token same
  rw [List.cons_append, bind_apply, advance_apply] at run
  rw [List.cons_append, bind_apply, expect_apply, Cursor.current_before_cons, if_pos rfl]
  exact run

theorem accept {kind : TokenKind} {text : String} {onwards : Bool → Parser β}
    (inside : kind ≠ .endOfInput)
    (accepts : Accepts refusals (onwards true) lexemes stop result names) :
    Accepts refusals (Parser.accept kind >>= onwards) ((kind, text) :: lexemes) stop result
      names := by
  intro cursor tokens following rest same stops enough fresh
  obtain ⟨mark, others, rfl, sameOthers⟩ := exists_token same
  rw [List.cons_append, bind_apply, accept_apply, Cursor.current_before_cons, if_pos rfl,
    Outcome.ok_bind, Cursor.advance_before_cons cursor _ inside]
  exact accepts cursor others following rest sameOthers stops
    (by simp only [List.length_cons] at enough; omega) fresh

theorem acceptOther {kind : TokenKind} {onwards : Bool → Parser β} (other : lexeme.1 ≠ kind)
    (accepts : Accepts refusals (onwards false) (lexeme :: lexemes) stop result names) :
    Accepts refusals (Parser.accept kind >>= onwards) (lexeme :: lexemes) stop result names := by
  intro cursor tokens following rest same stops enough fresh
  have run := accepts cursor tokens following rest same stops enough fresh
  obtain ⟨mark, others, rfl, _⟩ := exists_token same
  rw [List.cons_append, bind_apply, accept_apply, Cursor.current_before_cons, if_neg other]
  exact run

theorem acceptEnd {kind : TokenKind} {onwards : Bool → Parser β}
    (other : ∀ lexeme, stop lexeme → lexeme.1 ≠ kind)
    (accepts : Accepts refusals (onwards false) [] stop result names) :
    Accepts refusals (Parser.accept kind >>= onwards) [] stop result names := by
  intro cursor tokens following rest same stops enough fresh
  have run := accepts cursor tokens following rest same stops enough fresh
  obtain rfl := List.map_eq_nil_iff.mp same
  have different : following.kind ≠ kind := other _ stops
  rw [List.nil_append, bind_apply, accept_apply, Cursor.current_before_cons, if_neg different]
  exact run

/-- The token after the next one may be the one behind the lexemes. -/
theorem next {onwards : Token → Parser β} (second : Lexeme → Prop)
    (link : ∀ lexeme, stop lexeme → second (lexemes.head?.getD lexeme))
    (accepts : ∀ token : Token, second token.lexeme →
      Accepts refusals (onwards token) (lexeme :: lexemes) stop result names) :
    Accepts refusals (Parser.next >>= onwards) (lexeme :: lexemes) stop result names := by
  intro cursor tokens following rest same stops enough fresh
  obtain ⟨mark, others, rfl, rfl⟩ := exists_token same
  have holds := link _ stops
  cases others with
  | nil => exact accepts following holds cursor _ following rest rfl stops enough fresh
  | cons token others => exact accepts token holds cursor _ following rest rfl stops enough fresh

/-- A parser that only looks at the next token. -/
theorem peek {parser : Parser α} {onwards : α → Parser β} {value : α}
    (looks : ∀ (cursor : Cursor) (token : Token) (rest : List Token), token.lexeme = lexeme →
      parser (cursor.before (token :: rest)) = .ok (value, cursor.before (token :: rest)))
    (accepts : Accepts refusals (onwards value) (lexeme :: lexemes) stop result names) :
    Accepts refusals (parser >>= onwards) (lexeme :: lexemes) stop result names := by
  intro cursor tokens following rest same stops enough fresh
  have run := accepts cursor tokens following rest same stops enough fresh
  obtain ⟨mark, others, rfl, _⟩ := exists_token same
  rw [List.cons_append, bind_apply, looks cursor _ _ rfl]
  exact run

end Accepts

end Grammar

end Templating
