import Templating.Proofs.Grammar.Accepts
import Templating.Proofs.Lexer.Sound

/-!
What holds of everything that a parser gives when it reads sound tokens, and of the names of the
blocks that it opens on its way.
-/

namespace Templating

/-- All tokens at hand are sound, and no block has been opened twice. -/
structure Cursor.Sound (cursor : Cursor) : Prop where
  rest : ∀ token ∈ cursor.rest, token.Sound
  last : cursor.last.Sound
  distinct : cursor.opened.Nodup

namespace Cursor

theorem Sound.current {cursor : Cursor} (sound : cursor.Sound) : cursor.current.Sound := by
  unfold Cursor.current
  cases first : cursor.rest.head? with
  | none => exact trivial
  | some token => exact sound.rest token (List.mem_of_mem_head? first)

theorem Sound.next {cursor : Cursor} (sound : cursor.Sound) : cursor.next.Sound := by
  unfold Cursor.next
  cases second : cursor.rest[1]? with
  | none => exact sound.last
  | some token => exact sound.rest token (List.mem_of_getElem? second)

theorem Sound.advance {cursor : Cursor} (sound : cursor.Sound) : cursor.advance.Sound := by
  unfold Cursor.advance
  split
  · exact sound
  · exact ⟨fun token member => sound.rest token (List.mem_of_mem_drop member), sound.last,
      sound.distinct⟩

@[simp] theorem opened_advance (cursor : Cursor) : cursor.advance.opened = cursor.opened := by
  unfold Cursor.advance
  split <;> rfl

end Cursor

namespace Grammar

open Templating.Parser

variable {α β : Type}

/-- Whatever the parser gives from sound tokens, with the names of the blocks it opened in order,
satisfies the condition. -/
def Ensures (parser : Parser α) (post : α → List String → Prop) : Prop :=
  ∀ ⦃cursor : Cursor⦄ ⦃value : α⦄ ⦃after : Cursor⦄, cursor.Sound →
    parser cursor = .ok (value, after) → after.Sound ∧ ∃ names,
      after.opened = names.reverse ++ cursor.opened ∧ post value names

/-- The same for a parser that opens no block. -/
abbrev Yields (parser : Parser α) (post : α → Prop) : Prop :=
  Ensures parser fun value names => names = [] ∧ post value

/-- The same where this token comes next. -/
def EnsuresAt (token : Token) (parser : Parser α) (post : α → List String → Prop) : Prop :=
  ∀ ⦃cursor : Cursor⦄ ⦃value : α⦄ ⦃after : Cursor⦄, cursor.Sound → cursor.current = token →
    parser cursor = .ok (value, after) → after.Sound ∧ ∃ names,
      after.opened = names.reverse ++ cursor.opened ∧ post value names

namespace Ensures

variable {parser : Parser α} {onwards : α → Parser β} {post : β → List String → Prop}

theorem pure {value : β} (holds : post value []) : Ensures (pure value : Parser β) post := by
  intro cursor result after sound run
  cases run
  exact ⟨sound, [], rfl, holds⟩

theorem mono {first : α → List String → Prop} {second : α → List String → Prop}
    (ensures : Ensures parser first) (weaker : ∀ value names, first value names → second value names) :
    Ensures parser second := by
  intro cursor value after sound run
  obtain ⟨soundAfter, names, opens, holds⟩ := ensures sound run
  exact ⟨soundAfter, names, opens, weaker value names holds⟩

theorem bind {first : α → List String → Prop} (ensures : Ensures parser first)
    (continues : ∀ value names, first value names →
      Ensures (onwards value) fun result more => post result (names ++ more)) :
    Ensures (parser >>= onwards) post := by
  intro cursor result after sound run
  rw [bind_apply] at run
  obtain ⟨⟨value, between⟩, runFirst, runRest⟩ := Outcome.bind_eq_ok.mp run
  obtain ⟨soundBetween, names, opens, holds⟩ := ensures sound runFirst
  obtain ⟨soundAfter, more, opensMore, holdsMore⟩ := continues value names holds soundBetween runRest
  refine ⟨soundAfter, names ++ more, ?_, holdsMore⟩
  rw [opensMore, opens, List.reverse_append, List.append_assoc]

/-- One parser after another, the first of which opens no block. -/
theorem yields {first : α → Prop} (ensures : Yields parser first)
    (continues : ∀ value, first value → Ensures (onwards value) post) :
    Ensures (parser >>= onwards) post := by
  apply bind ensures
  rintro value names ⟨rfl, holds⟩
  exact continues value holds

theorem refuse {cause : GrammarCause} {token : Token} {post : α → List String → Prop} :
    Ensures (Parser.refuse cause token : Parser α) post := by
  intro cursor value after _ run
  cases run

theorem unexpected {token : Token} {expected : Option String} {post : α → List String → Prop} :
    Ensures (Parser.unexpected token expected : Parser α) post :=
  refuse

theorem unexpectedBind {token : Token} {expected : Option String} :
    Ensures ((Parser.unexpected token expected : Parser α) >>= onwards) post := by
  intro cursor value after _ run
  cases run

theorem anywhere (token : Token) {post : α → List String → Prop} (ensures : Ensures parser post) :
    EnsuresAt token parser post :=
  fun _ _ _ sound _ run => ensures sound run

variable {onwards : Token → Parser β}

theorem currentAt (continues : ∀ token : Token, token.Sound → EnsuresAt token (onwards token) post) :
    Ensures (Parser.current >>= onwards) post :=
  fun _ _ _ sound run => continues _ sound.current sound rfl run

theorem current (continues : ∀ token : Token, token.Sound → Ensures (onwards token) post) :
    Ensures (Parser.current >>= onwards) post :=
  currentAt fun token sound => anywhere token (continues token sound)

theorem next (continues : ∀ token : Token, token.Sound → Ensures (onwards token) post) :
    Ensures (Parser.next >>= onwards) post :=
  fun _ _ _ sound run => continues _ sound.next sound run

theorem advance (continues : ∀ token : Token, token.Sound → Ensures (onwards token) post) :
    Ensures (Parser.advance >>= onwards) post := by
  intro cursor value after sound run
  obtain ⟨soundAfter, names, opens, holds⟩ :=
    continues cursor.current sound.current sound.advance run
  rw [Cursor.opened_advance] at opens
  exact ⟨soundAfter, names, opens, holds⟩

theorem expect {kind : TokenKind} {what : String}
    (continues : ∀ token : Token, token.Sound → token.kind = kind → Ensures (onwards token) post) :
    Ensures (Parser.expect kind what >>= onwards) post := by
  intro cursor value after sound run
  rw [bind_apply, expect_apply] at run
  split at run
  case isTrue same =>
    obtain ⟨soundAfter, names, opens, holds⟩ :=
      continues cursor.current sound.current same sound.advance run
    rw [Cursor.opened_advance] at opens
    exact ⟨soundAfter, names, opens, holds⟩
  case isFalse => cases run

theorem accept {kind : TokenKind} {onwards : Bool → Parser β}
    (yes : Ensures (onwards true) post) (no : Ensures (onwards false) post) :
    Ensures (Parser.accept kind >>= onwards) post := by
  intro cursor value after sound run
  rw [bind_apply, accept_apply] at run
  split at run
  · obtain ⟨soundAfter, names, opens, holds⟩ := yes sound.advance run
    rw [Cursor.opened_advance] at opens
    exact ⟨soundAfter, names, opens, holds⟩
  · exact no sound run

theorem size {onwards : Nat → Parser β} (continues : ∀ budget, Ensures (onwards budget) post) :
    Ensures (Parser.size >>= onwards) post :=
  fun _ _ _ sound run => continues _ sound run

theorem position {token : Token} {onwards : Option Position → Parser β}
    (continues : ∀ position, Ensures (onwards position) post) :
    Ensures (positionOf token >>= onwards) post :=
  fun _ _ _ sound run => continues _ sound run

end Ensures

theorem EnsuresAt.advance {token : Token} {onwards : Token → Parser β}
    {post : β → List String → Prop} (ensures : Ensures (onwards token) post) :
    EnsuresAt token (Parser.advance >>= onwards) post := by
  intro cursor value after sound here run
  subst here
  obtain ⟨soundAfter, names, opens, holds⟩ := ensures sound.advance run
  rw [Cursor.opened_advance] at opens
  exact ⟨soundAfter, names, opens, holds⟩

end Grammar

end Templating
