import Templating.Proofs.Canonical.Lexemes
import Templating.Proofs.Grammar.Accepts

/-!
Binary operators are read level by level. A level that meets none of its operators passes its
operand on; a level that meets one reads it with both operands.
-/

namespace Templating.Grammar

open Templating.Parser Canonical

variable {refusals : Refusal → Prop} {lexemes more : List Lexeme} {next between : Lexeme → Prop}
  {operand : Parser Expr} {result left right : Expr → Prop}

/-- A level of binary operators, from the tokens that are operators of it. -/
abbrev Level := Token → Option BinaryOperator

def levels : List Level :=
  [orOperator?, andOperator?, comparisonOperator?, sumOperator?, productOperator?]

theorem disjunction_eq (operand : Parser Expr) :
    disjunction operand = levels.foldr binaryLevel operand :=
  rfl

/-- Whether a token is an operator does not depend on its place. -/
theorem level_eq_of_lexeme {level : Level} (known : level ∈ levels) {token other : Token}
    (same : token.lexeme = other.lexeme) : level token = level other := by
  obtain ⟨kind, value, mark⟩ := token
  obtain ⟨kind', value', mark'⟩ := other
  obtain ⟨rfl, rfl⟩ := Prod.mk.inj same
  simp only [levels, List.mem_cons, List.not_mem_nil, or_false] at known
  rcases known with rfl | rfl | rfl | rfl | rfl <;> rfl

/-- No level has an operator of this kind. -/
theorem level_eq_none {level : Level} (known : level ∈ levels) {token : Token}
    (noKeyword : token.kind ≠ .keyword) (noOperator : token.kind ≠ .operator) :
    level token = none := by
  have word : ∀ text, token.isKeyword text = false := by simp [Token.isKeyword, noKeyword]
  have symbol : ∀ text, token.isOperator text = false := by simp [Token.isOperator, noOperator]
  simp only [levels, List.mem_cons, List.not_mem_nil, or_false] at known
  rcases known with rfl | rfl | rfl | rfl | rfl
  · simp [orOperator?, word, symbol]
  · simp [andOperator?, word, symbol]
  · simp [comparisonOperator?, word, symbol]
  · simp [sumOperator?, symbol]
  · simp [productOperator?, symbol]

theorem binaryRest_stop {level : Level} (budget : Nat) {value : Expr} (holds : result value)
    (stops : ∀ token : Token, next token.lexeme → level token = none) :
    Accepts refusals (binaryRest level operand budget value) [] next result := by
  cases budget with
  | zero => exact Accepts.pure holds
  | succ budget =>
      rw [binaryRest]
      apply Accepts.currentEnd
      intro token stop
      rw [stops token stop]
      exact Accepts.pure holds

theorem binaryLevel_pass {level : Level} (accepts : Accepts refusals operand lexemes next result)
    (stops : ∀ token : Token, next token.lexeme → level token = none) :
    Accepts refusals (binaryLevel level operand) lexemes next result := by
  rw [binaryLevel, ← List.append_nil lexemes]
  apply Accepts.bind accepts _ (fun _ stop => stop)
  intro value holds
  exact Accepts.size fun budget _ => binaryRest_stop budget holds stops

theorem binaryLevel_take {level : Level} {lexeme : Lexeme} {operator : BinaryOperator}
    (inside : lexeme.1 ≠ .endOfInput) (acceptsLeft : Accepts refusals operand lexemes between left)
    (acceptsRight : Accepts refusals operand more next right) (link : between lexeme)
    (reads : ∀ token : Token, token.lexeme = lexeme → level token = some operator)
    (stops : ∀ token : Token, next token.lexeme → level token = none)
    (builds : ∀ first second position, left first → right second →
      result (.binary operator first second position)) :
    Accepts refusals (binaryLevel level operand) (lexemes ++ lexeme :: more) next result := by
  rw [binaryLevel]
  refine Accepts.bind acceptsLeft ?_ (fun _ _ => by exact link)
  intro first holdsFirst
  apply Accepts.size
  intro budget turns
  cases budget with
  | zero => simp at turns
  | succ budget =>
      rw [binaryRest]
      apply Accepts.current
      intro token same
      rw [reads token same]
      apply Accepts.advance inside
      intro _ _
      rw [← List.append_nil more]
      apply Accepts.bind acceptsRight _ (fun _ stop => stop)
      intro second holdsSecond
      apply Accepts.position
      intro position
      exact binaryRest_stop budget (builds first second position holdsFirst holdsSecond) stops

theorem climb_pass {some : List Level} (accepts : Accepts refusals operand lexemes next result)
    (stops : ∀ level ∈ some, ∀ token : Token, next token.lexeme → level token = none) :
    Accepts refusals (some.foldr binaryLevel operand) lexemes next result := by
  induction some with
  | nil => exact accepts
  | cons level others ih =>
      apply binaryLevel_pass
      · exact ih fun other member => stops other (List.mem_cons_of_mem _ member)
      · exact stops level List.mem_cons_self

/-- Every operator belongs to a level, and the levels inside that pass it on. -/
theorem exists_level : ∀ operator ∈ BinaryOperator.known, ∃ outer level inner,
    levels = outer ++ level :: inner ∧
      level ⟨(operatorLexeme operator).1, (operatorLexeme operator).2, {}⟩ = some operator ∧
      ∀ other ∈ inner,
        other ⟨(operatorLexeme operator).1, (operatorLexeme operator).2, {}⟩ = none := by
  have comparison : levels = [orOperator?, andOperator?] ++ comparisonOperator? ::
    [sumOperator?, productOperator?] := rfl
  have sum : levels = [orOperator?, andOperator?, comparisonOperator?] ++ sumOperator? ::
    [productOperator?] := rfl
  have product : levels = [orOperator?, andOperator?, comparisonOperator?, sumOperator?] ++
    productOperator? :: [] := rfl
  simp only [BinaryOperator.known, List.forall_mem_cons]
  and_intros
  · exact ⟨[], _, _, rfl, rfl, by decide⟩
  · exact ⟨[orOperator?], _, _, rfl, rfl, by decide⟩
  all_goals
    first
    | exact ⟨_, _, _, comparison, rfl, by decide⟩
    | exact ⟨_, _, _, sum, rfl, by decide⟩
    | exact ⟨_, _, _, product, rfl, by decide⟩
    | simp

end Templating.Grammar
