import Templating.Proofs.Grammar.Accepts
import Templating.Proofs.Grammar.Derivation

/-!
What it means that a parser implements a derivation: whatever it gives is derived, and whatever is
derived it gives, if what follows lets it stop there. Both are followed step by step: what a parser
finds in given tokens, and what it takes of them.
-/

namespace Templating

/-- The tokens can stand before the cursor: there are no more than it counts, and the last of them
is its last one. -/
structure Cursor.Spans (cursor : Cursor) (template : String) (tokens : List Token) : Prop where
  template : cursor.template = template
  room : tokens.length ≤ cursor.size
  last : ∀ token ∈ tokens.getLast?, token = cursor.last

theorem Cursor.Spans.suffix {cursor : Cursor} {template : String} {tokens rest : List Token}
    (spans : cursor.Spans template tokens) (behind : rest <:+ tokens) :
    cursor.Spans template rest where
  template := spans.template
  room := Nat.le_trans behind.length_le spans.room
  last token ends := by
    obtain ⟨passed, rfl⟩ := behind
    have known : rest.getLast? = some token := ends
    refine spans.last token ?_
    rw [List.getLast?_append, known]
    rfl

namespace Grammar

open Templating.Parser Templating.Derivation

/-- What a parser looks at first: the next token, or an end of input that is not there. -/
def Shows (tokens : List Token) (token : Token) : Prop :=
  match tokens with
  | [] => token.kind = .endOfInput
  | first :: _ => token = first

theorem Shows.kind {tokens : List Token} {token : Token} (shown : Shows tokens token) :
    token.kind = ahead tokens := by
  cases tokens with
  | nil => exact shown
  | cons first tokens => exact congrArg Token.kind shown

theorem Shows.cons {tokens : List Token} {token : Token} (shown : Shows tokens token)
    (inside : token.kind ≠ .endOfInput) : ∃ others, tokens = token :: others := by
  cases tokens with
  | nil => exact absurd shown inside
  | cons first tokens => exact ⟨tokens, congrArg (· :: tokens) shown.symm⟩

theorem shows_current (cursor : Cursor) (tokens : List Token) :
    Shows tokens (cursor.before tokens).current := by
  cases tokens <;> rfl

theorem word_inside {token : Token} (word : token.kind = .identifier ∨ token.kind = .string) :
    token.kind ≠ .endOfInput := by
  rcases word with kind | kind <;> rw [kind] <;> decide

/-- Behind a word or a string the next token is a colon only if one is there. -/
theorem next_colon {cursor : Cursor} {template : String} {token : Token} {tokens : List Token}
    (spans : cursor.Spans template tokens) (shown : Shows tokens token)
    (word : token.kind = .identifier ∨ token.kind = .string) :
    (cursor.before tokens).next.kind = .colon ↔ ahead tokens.tail = .colon := by
  obtain ⟨others, rfl⟩ := shown.cons (word_inside word)
  cases others with
  | nil =>
      have last : (cursor.before [token]).next = token := (spans.last token rfl).symm
      have noColon : token.kind ≠ .colon := by
        rcases word with kind | kind <;> rw [kind] <;> decide
      rw [last]
      exact ⟨fun same => absurd same noColon, nofun⟩
  | cons second others => exact Iff.rfl

variable {α β : Type} {template : String}

/-- Whatever the parser gives before these tokens leaves only their rest and satisfies the
condition. -/
def Finds (template : String) (tokens : List Token) (parser : Parser α)
    (post : List Token → α → Prop) : Prop :=
  ∀ ⦃cursor : Cursor⦄ ⦃value : α⦄ ⦃after : Cursor⦄, cursor.Spans template tokens →
    parser (cursor.before tokens) = .ok (value, after) →
      ∃ rest, after = cursor.before rest ∧ post rest value

/-- Before these tokens the parser gives this value and leaves this rest. -/
def Takes (template : String) (tokens : List Token) (parser : Parser α) (rest : List Token)
    (value : α) : Prop :=
  ∀ ⦃cursor : Cursor⦄, cursor.Spans template tokens →
    parser (cursor.before tokens) = .ok (value, cursor.before rest)

namespace Finds

variable {tokens others : List Token} {token : Token} {post : List Token → β → Prop}

theorem pure {value : β} (holds : post tokens value) :
    Finds template tokens (pure value : Parser β) post := by
  intro cursor result after _ run
  cases run
  exact ⟨tokens, rfl, holds⟩

theorem refuse {cause : GrammarCause} {blamed : Token} :
    Finds template tokens (Parser.refuse cause blamed : Parser β) post := by
  intro cursor result after _ run
  cases run

theorem refuseBind {cause : GrammarCause} {blamed : Token} {onwards : α → Parser β} :
    Finds template tokens ((Parser.refuse cause blamed : Parser α) >>= onwards) post := by
  intro cursor result after _ run
  cases run

theorem mono {stronger : List Token → β → Prop} {parser : Parser β}
    (finds : Finds template tokens parser stronger)
    (weaker : ∀ rest value, stronger rest value → post rest value) :
    Finds template tokens parser post := by
  intro cursor value after spans run
  obtain ⟨rest, same, holds⟩ := finds spans run
  exact ⟨rest, same, weaker rest value holds⟩

theorem bind {parser : Parser α} {onwards : α → Parser β} {first : List Token → α → Prop}
    (finds : Finds template tokens parser first) (behind : ∀ rest value, first rest value →
      rest <:+ tokens)
    (continues : ∀ rest value, first rest value → Finds template rest (onwards value) post) :
    Finds template tokens (parser >>= onwards) post := by
  intro cursor result after spans run
  rw [bind_apply] at run
  obtain ⟨⟨value, between⟩, runFirst, runRest⟩ := Outcome.bind_eq_ok.mp run
  obtain ⟨rest, rfl, holds⟩ := finds spans runFirst
  exact continues rest value holds (spans.suffix (behind rest value holds)) runRest

theorem current {onwards : Token → Parser β}
    (continues : ∀ token, Shows tokens token → Finds template tokens (onwards token) post) :
    Finds template tokens (Parser.current >>= onwards) post :=
  fun cursor _ _ spans run => continues _ (shows_current cursor tokens) spans run

theorem advance {onwards : Token → Parser β} (inside : token.kind ≠ .endOfInput)
    (continues : Finds template others (onwards token) post) :
    Finds template (token :: others) (Parser.advance >>= onwards) post := by
  intro cursor value after spans run
  rw [bind_apply, advance_apply, Outcome.ok_bind, Cursor.advance_before_cons cursor _ inside] at run
  exact continues (spans.suffix (List.suffix_cons token others)) run

theorem expect {kind : TokenKind} {what : String} {onwards : Token → Parser β}
    (inside : kind ≠ .endOfInput) (continues : ∀ token others, tokens = token :: others →
      token.kind = kind → Finds template others (onwards token) post) :
    Finds template tokens (Parser.expect kind what >>= onwards) post := by
  simp only [Parser.expect, bind_assoc]
  refine current fun token shown => ?_
  split
  case isTrue same =>
    obtain ⟨others, rfl⟩ := shown.cons (same ▸ inside)
    exact advance (same ▸ inside) (continues token others rfl same)
  case isFalse => exact refuseBind

theorem accept {kind : TokenKind} {onwards : Bool → Parser β} (inside : kind ≠ .endOfInput)
    (yes : ∀ token others, tokens = token :: others → token.kind = kind →
      Finds template others (onwards true) post)
    (no : ahead tokens ≠ kind → Finds template tokens (onwards false) post) :
    Finds template tokens (Parser.accept kind >>= onwards) post := by
  simp only [Parser.accept, bind_assoc]
  refine current fun token shown => ?_
  split
  case isTrue same =>
    obtain ⟨others, rfl⟩ := shown.cons (same ▸ inside)
    simp only [bind_assoc, pure_bind]
    exact advance (same ▸ inside) (yes token others rfl same)
  case isFalse other => exact no (shown.kind ▸ other)

theorem next {onwards : Token → Parser β} (shown : Shows tokens token)
    (continues : ∀ second : Token, (token.kind = .identifier ∨ token.kind = .string →
        (second.kind = .colon ↔ ahead tokens.tail = .colon)) →
      Finds template tokens (onwards second) post) :
    Finds template tokens (Parser.next >>= onwards) post :=
  fun _ _ _ spans run => continues _ (next_colon spans shown) spans run

/-- There are as many turns as tokens. -/
theorem size {onwards : Nat → Parser β}
    (continues : ∀ budget, tokens.length ≤ budget → Finds template tokens (onwards budget) post) :
    Finds template tokens (Parser.size >>= onwards) post :=
  fun _ _ _ spans run => continues _ spans.room spans run

theorem position {onwards : Option Position → Parser β} (continues :
    Finds template tokens (onwards (some (token.position template))) post) :
    Finds template tokens (positionOf token >>= onwards) post := by
  intro cursor value after spans run
  rw [bind_apply, positionOf_apply, Cursor.before_template, spans.template] at run
  exact continues spans run

end Finds

namespace Takes

variable {tokens others rest between : List Token} {token : Token} {value : β}

theorem pure (tokens : List Token) (value : β) :
    Takes template tokens (pure value : Parser β) tokens value :=
  fun _ _ => rfl

theorem bind {parser : Parser α} {onwards : α → Parser β} {first : α}
    (takes : Takes template tokens parser between first) (behind : between <:+ tokens)
    (continues : Takes template between (onwards first) rest value) :
    Takes template tokens (parser >>= onwards) rest value := by
  intro cursor spans
  rw [bind_apply, takes spans]
  exact continues (spans.suffix behind)

theorem current {onwards : Token → Parser β}
    (continues : ∀ token, Shows tokens token → Takes template tokens (onwards token) rest value) :
    Takes template tokens (Parser.current >>= onwards) rest value :=
  fun cursor spans => continues _ (shows_current cursor tokens) spans

theorem advance {onwards : Token → Parser β} (inside : token.kind ≠ .endOfInput)
    (continues : Takes template others (onwards token) rest value) :
    Takes template (token :: others) (Parser.advance >>= onwards) rest value := by
  intro cursor spans
  rw [bind_apply, advance_apply, Outcome.ok_bind, Cursor.advance_before_cons cursor _ inside]
  exact continues (spans.suffix (List.suffix_cons token others))

theorem expect {kind : TokenKind} {what : String} {onwards : Token → Parser β}
    (same : token.kind = kind) (inside : kind ≠ .endOfInput)
    (continues : Takes template others (onwards token) rest value) :
    Takes template (token :: others) (Parser.expect kind what >>= onwards) rest value := by
  simp only [Parser.expect, bind_assoc]
  refine current fun shown known => ?_
  cases known
  rw [if_pos same]
  exact advance (same ▸ inside) continues

theorem accept {kind : TokenKind} {onwards : Bool → Parser β} (same : token.kind = kind)
    (inside : kind ≠ .endOfInput) (continues : Takes template others (onwards true) rest value) :
    Takes template (token :: others) (Parser.accept kind >>= onwards) rest value := by
  simp only [Parser.accept, bind_assoc]
  refine current fun shown known => ?_
  cases known
  rw [if_pos same]
  simp only [bind_assoc, pure_bind]
  exact advance (same ▸ inside) continues

theorem acceptOther {kind : TokenKind} {onwards : Bool → Parser β} (other : ahead tokens ≠ kind)
    (continues : Takes template tokens (onwards false) rest value) :
    Takes template tokens (Parser.accept kind >>= onwards) rest value := by
  simp only [Parser.accept, bind_assoc]
  refine current fun shown known => ?_
  rw [if_neg (known.kind ▸ other)]
  exact continues

theorem next {onwards : Token → Parser β} (shown : Shows tokens token)
    (continues : ∀ second : Token, (token.kind = .identifier ∨ token.kind = .string →
        (second.kind = .colon ↔ ahead tokens.tail = .colon)) →
      Takes template tokens (onwards second) rest value) :
    Takes template tokens (Parser.next >>= onwards) rest value :=
  fun _ spans => continues _ (next_colon spans shown) spans

/-- There are as many turns as tokens. -/
theorem size {onwards : Nat → Parser β} (continues : ∀ budget, tokens.length ≤ budget →
    Takes template tokens (onwards budget) rest value) :
    Takes template tokens (Parser.size >>= onwards) rest value :=
  fun _ spans => continues _ spans.room spans

theorem position {onwards : Option Position → Parser β} (continues :
    Takes template tokens (onwards (some (token.position template))) rest value) :
    Takes template tokens (positionOf token >>= onwards) rest value := by
  intro cursor spans
  rw [bind_apply, positionOf_apply, Cursor.before_template, spans.template]
  exact continues spans

end Takes

/-- The parser gives only what is derived, and gives what is derived if it may stop behind it. -/
structure Implements (template : String) (parser : Parser α) (derives : Derivation α)
    (stops : List Token → Prop) : Prop where
  sound : ∀ tokens, Finds template tokens parser (derives tokens)
  complete : ∀ ⦃tokens rest value⦄, derives tokens rest value → stops rest →
    Takes template tokens parser rest value

end Grammar

end Templating
