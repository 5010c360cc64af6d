import Templating.Proofs.Grammar.Accepts
import Templating.Proofs.Grammar.Levels

/-!
Parsers of what stands in a tag do not look behind the close of the tag: what they read there is
decided by the tokens of the tag alone, wherever the tag stands.
-/

namespace Templating

namespace TokenKind

/-- The kinds that close a tag. -/
def closes (kind : TokenKind) : Bool :=
  kind == .expressionClose || kind == .blockClose

/-- The kinds that what is read in a tag may pass. -/
def isInside (kind : TokenKind) : Bool :=
  !kind.closes && kind != .endOfInput

end TokenKind

namespace Grammar

open Templating.Parser

variable {α β : Type}

/-- Whatever the first parser reads before the close of a tag, out of at most so many tokens and no
fewer than the least number of them, the second reads as well before the same close elsewhere.
These tokens are known to come first. -/
def Follows (coming : List Token) (bound least : Nat) (first second : Parser α) : Prop :=
  ∀ ⦃close : Token⦄, close.kind.closes → ∀ ⦃one other : Cursor⦄, one.template = other.template →
    ∀ ⦃tokens behind : List Token⦄, tokens.length ≤ bound → tokens.length < one.size →
      tokens.length < other.size → coming <+: tokens ++ [close] →
        ∀ ⦃value : α⦄ ⦃after : Cursor⦄,
          first (one.before (tokens ++ close :: behind)) = .ok (value, after) →
            ∃ left, left.length + least ≤ tokens.length ∧
              after = one.before (left ++ close :: behind) ∧ ∀ elsewhere,
                second (other.before (tokens ++ close :: elsewhere)) =
                  .ok (value, other.before (left ++ close :: elsewhere))

/-- What the parser reads in a tag is decided by the tokens of the tag; it takes no fewer than the
least number of them. -/
def Confined (least : Nat) (parser : Parser α) : Prop :=
  ∀ bound, Follows [] bound least parser parser

/-- Inside a tag the next token is one of the tag's. -/
theorem exists_cons {tokens coming : List Token} {close token : Token} (closes : close.kind.closes)
    (comes : token :: coming <+: tokens ++ [close]) (inside : token.kind.isInside) :
    ∃ rest, tokens = token :: rest ∧ coming <+: rest ++ [close] := by
  cases tokens with
  | nil =>
      obtain ⟨rfl, _⟩ := List.cons_prefix_cons.mp comes
      simp [TokenKind.isInside, closes] at inside
  | cons other tokens =>
      obtain ⟨rfl, rest⟩ := List.cons_prefix_cons.mp comes
      exact ⟨tokens, rfl, rest⟩

namespace Follows

variable {bound least : Nat} {coming : List Token} {token : Token}

theorem pure (value : α) : Follows coming bound 0 (pure value : Parser α) (pure value) := by
  intro close closes one other same tokens behind _ _ _ _ result after run
  cases run
  exact ⟨tokens, Nat.le_refl _, rfl, fun _ => rfl⟩

theorem refuse {cause : GrammarCause} {blamed : Token} {second : Parser α} :
    Follows coming bound least (Parser.refuse cause blamed) second := by
  intro close closes one other same tokens behind _ _ _ _ result after run
  cases run

theorem unexpected {blamed : Token} {expected : Option String} {second : Parser α} :
    Follows coming bound least (Parser.unexpected blamed expected) second :=
  refuse

theorem refuseBind {cause : GrammarCause} {blamed : Token} {onwards : α → Parser β}
    {second : Parser β} :
    Follows coming bound least ((Parser.refuse cause blamed : Parser α) >>= onwards) second := by
  intro close closes one other same tokens behind _ _ _ _ result after run
  cases run

theorem unexpectedBind {blamed : Token} {expected : Option String} {onwards : α → Parser β}
    {second : Parser β} : Follows coming bound least
      ((Parser.unexpected blamed expected : Parser α) >>= onwards) second :=
  refuseBind

theorem anywhere {first second : Parser α} (follows : Follows [] bound least first second) :
    Follows coming bound least first second :=
  fun _ closes _ _ same _ _ few enough enoughOther _ _ _ run =>
    follows closes same few enough enoughOther List.nil_prefix run

theorem fewer {first second : Parser α} {less : Nat}
    (follows : Follows coming bound least first second) (fewest : less ≤ least) :
    Follows coming bound less first second := by
  intro close closes one other same tokens behind few enough enoughOther comes value after run
  obtain ⟨left, uses, rest, elsewhere⟩ := follows closes same few enough enoughOther comes run
  exact ⟨left, Nat.le_trans (Nat.add_le_add_left fewest _) uses, rest, elsewhere⟩

theorem bind {first second : Parser α} {onwards others : α → Parser β} {total : Nat}
    (follows : Follows coming bound least first second) (continues : ∀ value,
      Follows [] (bound - least) (total - least) (onwards value) (others value)) :
    Follows coming bound total (first >>= onwards) (second >>= others) := by
  intro close closes one other same tokens behind few enough enoughOther comes result after run
  rw [bind_apply] at run
  obtain ⟨⟨value, between⟩, runFirst, runRest⟩ := Outcome.bind_eq_ok.mp run
  obtain ⟨left, uses, rfl, elsewhere⟩ := follows closes same few enough enoughOther comes runFirst
  obtain ⟨last, usesLast, rest, elsewhereLast⟩ := continues value closes same (by omega) (by omega)
    (by omega) List.nil_prefix runRest
  refine ⟨last, by omega, rest, fun following => ?_⟩
  rw [bind_apply, elsewhere following]
  exact elsewhereLast following

theorem current {onwards others : Token → Parser β}
    (continues : ∀ token, Follows [token] bound least (onwards token) (others token)) :
    Follows [] bound least (Parser.current >>= onwards) (Parser.current >>= others) := by
  intro close closes one other same tokens behind few enough enoughOther _ result after run
  obtain ⟨token, comes, shown⟩ : ∃ token, [token] <+: tokens ++ [close] ∧
      ∀ (cursor : Cursor) behind, (cursor.before (tokens ++ close :: behind)).current = token := by
    cases tokens <;> exact ⟨_, by simp, fun _ _ => rfl⟩
  rw [bind_apply, current_apply, shown] at run
  obtain ⟨left, uses, rest, elsewhere⟩ :=
    continues token closes same few enough enoughOther comes run
  refine ⟨left, uses, rest, fun following => ?_⟩
  rw [bind_apply, current_apply, shown]
  exact elsewhere following

/-- Where a token inside the tag comes next, there is one to read. -/
theorem ofInside {first second : Parser α} (inside : token.kind.isInside)
    (follows : 0 < bound → Follows [token] bound least first second) :
    Follows [token] bound least first second := by
  intro close closes one other same tokens behind few enough enoughOther comes value after run
  obtain ⟨rest, rfl, _⟩ := exists_cons closes comes inside
  exact follows (Nat.lt_of_lt_of_le (Nat.succ_pos _) few) closes same few enough enoughOther comes
    run

/-- The token after one inside the tag is the tag's too, or its close. -/
theorem next {onwards others : Token → Parser β} (inside : token.kind.isInside)
    (continues : ∀ following,
      Follows [token, following] bound least (onwards following) (others following)) :
    Follows [token] bound least (Parser.next >>= onwards) (Parser.next >>= others) := by
  intro close closes one other same tokens behind few enough enoughOther comes result after run
  obtain ⟨rest, rfl, _⟩ := exists_cons closes comes inside
  obtain ⟨following, comes, shown⟩ :
      ∃ following, [token, following] <+: token :: rest ++ [close] ∧ ∀ (cursor : Cursor) behind,
        (cursor.before (token :: rest ++ close :: behind)).next = following := by
    cases rest <;> exact ⟨_, by simp, fun _ _ => rfl⟩
  rw [bind_apply, next_apply, shown] at run
  obtain ⟨left, uses, rest, elsewhere⟩ :=
    continues following closes same few enough enoughOther comes run
  refine ⟨left, uses, rest, fun following => ?_⟩
  rw [bind_apply, next_apply, shown]
  exact elsewhere following

/-- What is passed is passed by both, and one token fewer is left to loop over. -/
theorem advance {onwards others : Token → Parser β} (inside : token.kind.isInside)
    (continues : ∀ few, few + 1 ≤ bound →
      Follows coming few (least - 1) (onwards token) (others token)) :
    Follows (token :: coming) bound least (Parser.advance >>= onwards)
      (Parser.advance >>= others) := by
  intro close closes one other same tokens behind few enough enoughOther comes result after run
  obtain ⟨rest, rfl, comesRest⟩ := exists_cons closes comes inside
  have noEnd : token.kind ≠ .endOfInput := by
    rintro kind
    simp [TokenKind.isInside, kind] at inside
  rw [List.length_cons] at few enough enoughOther
  rw [List.cons_append, bind_apply, advance_apply, Outcome.ok_bind,
    Cursor.advance_before_cons one _ noEnd] at run
  obtain ⟨left, uses, rfl, elsewhere⟩ := continues rest.length few closes same (Nat.le_refl _)
    (by omega) (by omega) comesRest run
  refine ⟨left, by simp only [List.length_cons]; omega, rfl, fun following => ?_⟩
  rw [List.cons_append, bind_apply, advance_apply, Outcome.ok_bind,
    Cursor.advance_before_cons other _ noEnd]
  exact elsewhere following

theorem expect {kind : TokenKind} {what : String} {onwards others : Token → Parser β}
    (inside : kind.isInside)
    (continues : ∀ token few, few + 1 ≤ bound →
      Follows [] few (least - 1) (onwards token) (others token)) :
    Follows [] bound least (Parser.expect kind what >>= onwards)
      (Parser.expect kind what >>= others) := by
  simp only [Parser.expect, bind_assoc]
  apply current
  intro token
  split
  case isTrue same => exact advance (same ▸ inside) (continues token)
  case isFalse => exact unexpectedBind

theorem accept {kind : TokenKind} {onwards others : Bool → Parser β} (inside : kind.isInside)
    (yes : ∀ few, few + 1 ≤ bound → Follows [] few (least - 1) (onwards true) (others true))
    (no : Follows [] bound least (onwards false) (others false)) :
    Follows [] bound least (Parser.accept kind >>= onwards) (Parser.accept kind >>= others) := by
  simp only [Parser.accept, bind_assoc]
  apply current
  intro token
  split
  case isTrue same =>
    simp only [bind_assoc, pure_bind]
    exact advance (same ▸ inside) yes
  case isFalse => exact anywhere no

/-- Every turn of a loop passes a token of the tag, so both have turns enough. -/
theorem size {onwards others : Nat → Parser β}
    (continues : ∀ few one other, few ≤ bound → few < one → few < other →
      Follows coming few least (onwards one) (others other)) :
    Follows coming bound least (Parser.size >>= onwards) (Parser.size >>= others) :=
  fun _ closes one other same _ _ few enough enoughOther comes _ _ run =>
    continues _ one.size other.size few enough enoughOther closes same (Nat.le_refl _) enough
      enoughOther comes run

theorem position {onwards others : Option Position → Parser β}
    (continues : ∀ position, Follows coming bound least (onwards position) (others position)) :
    Follows coming bound least (positionOf token >>= onwards) (positionOf token >>= others) := by
  intro close closes one other same tokens behind few enough enoughOther comes result after run
  obtain ⟨left, uses, rest, elsewhere⟩ :=
    continues (some (token.position one.template)) closes same few enough enoughOther comes run
  refine ⟨left, uses, rest, fun following => ?_⟩
  rw [bind_apply, positionOf_apply, Cursor.before_template, ← same]
  exact elsewhere following

/-- A loop with turns enough for all tokens, every further turn of which follows a token. -/
theorem loop {σ : Type} {loop : Nat → σ → Parser α}
    (turn : ∀ {bound one other : Nat} (state : σ),
      (∀ few, few + 1 ≤ bound → ∀ state, Follows [] few 0 (loop one state) (loop other state)) →
        Follows [] bound 0 (loop (one + 1) state) (loop (other + 1) state))
    {one other : Nat} (enough : bound < one) (enoughOther : bound < other) (state : σ) :
    Follows [] bound 0 (loop one state) (loop other state) := by
  induction one generalizing bound other state with
  | zero => exact absurd enough (Nat.not_lt_zero _)
  | succ one ih =>
      have some : 1 ≤ other := Nat.lt_of_le_of_lt (Nat.zero_le _) enoughOther
      obtain ⟨other, rfl⟩ := Nat.exists_eq_add_of_le' some
      apply turn
      intro few less state
      exact ih (by omega) (by omega) state

end Follows

end Grammar

end Templating
