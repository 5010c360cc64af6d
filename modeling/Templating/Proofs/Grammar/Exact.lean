import Mathlib
import Templating.Proofs.Grammar.Applications

/-!
The parser of expressions gives exactly what the grammar derives within its limit on nesting.
-/

namespace Templating

/-- The cursor before all tokens but so many. -/
def Cursor.behind (template : String) (tokens : List Token) (passed : Nat) : Cursor :=
  (ofTokens template tokens).before (tokens.drop passed)

theorem Cursor.spans_ofTokens (template : String) (tokens : List Token) :
    (ofTokens template tokens).Spans template tokens where
  template := rfl
  room := Nat.le_refl _
  last token ends := by
    have known : tokens.getLast? = some token := ends
    rw [ofTokens, known]
    rfl

namespace Grammar

open Templating.Parser Templating.Derivation

variable {template : String}

/-- Where no nesting is left, nothing is derived and nothing is given. -/
theorem tooDeepHere_implements (limit : Int) (stops : List Token → Prop) :
    Implements template (tooDeepHere limit) nothing stops where
  sound _ _ _ _ _ run := by cases run
  complete _ _ _ never := never.elim

theorem wholeAt_implements (limit : Int) (template : String) (depth : Nat) :
    Implements template (wholeAt limit depth) (Whole template depth) Closes ∧
      Implements template (unaryAt limit depth) (Unary template depth) fun _ => True := by
  induction depth with
  | zero =>
      have sign : ∀ token, Implements template (tooDeep limit token) nothing fun _ => True :=
        fun _ => ⟨fun _ => .refuse, fun _ _ _ never => never.elim⟩
      have primaries : Implements template (primary (tooDeepHere limit))
          (Primary template nothing) fun _ => True :=
        primary_implements (tooDeepHere_implements limit Closes) .nothing
      exact ⟨tooDeepHere_implements limit Closes, signed_implements sign Regular.nothing.advances
        primaries (fun _ _ _ _ derived => derived.startKind) (Primary.regular .nothing).advances⟩
  | succ depth ih =>
      obtain ⟨whole, unary⟩ := ih
      obtain ⟨regular, signs⟩ := whole_regular template depth
      have wholes := filtered_implements whole regular unary signs
      have deeper : Regular (Whole template (depth + 1)) := Filtered.regular signs regular.advances
      exact ⟨wholes, signed_implements (fun _ => unary) signs.advances
        (primary_implements wholes deeper) (fun _ _ _ _ derived => derived.startKind)
        (Primary.regular deeper.advances).advances⟩

/-- Whatever the parser of expressions gives, the tokens that it passes derive, with no more nesting
than the limit. Whatever tokens derive so, it gives, if behind them stands a closing bracket or
delimiter, a comma or the end of input. -/
theorem expression_exact (limit : Int) (template : String) (tokens : List Token) (start : Nat) :
    (∀ expr after, expression limit (.behind template tokens start) = .ok (expr, after) →
      ∃ stop, start < stop ∧ stop ≤ tokens.length ∧ after = .behind template tokens stop ∧
        Whole template limit.toNat (tokens.drop start) (tokens.drop stop) expr) ∧
    ∀ stop expr, Whole template limit.toNat (tokens.drop start) (tokens.drop stop) expr →
      ahead (tokens.drop stop) ∈
        [.rightParen, .rightBracket, .comma, .expressionClose, .blockClose, .endOfInput] →
      expression limit (.behind template tokens start) =
        .ok (expr, .behind template tokens stop) := by
  have implements := (wholeAt_implements limit template limit.toNat).1
  have advances := (whole_regular template limit.toNat).1.advances
  have spans := (Cursor.spans_ofTokens template tokens).suffix (List.drop_suffix start tokens)
  constructor
  · intro expr after run
    obtain ⟨rest, rfl, derived⟩ := implements.sound (tokens.drop start) spans run
    have shorter := advances.shorter derived
    obtain ⟨passed, same⟩ := (advances.suffix derived).trans (List.drop_suffix start tokens)
    have behind : rest = tokens.drop passed.length := by rw [← same, List.drop_left]
    have lengths := congrArg List.length same
    rw [List.length_append] at lengths
    rw [List.length_drop] at shorter
    refine ⟨passed.length, by omega, by omega, ?_, behind ▸ derived⟩
    rw [Cursor.behind, behind]
  · intro stop expr derived closes
    exact implements.complete derived closes spans

/-- Differences are taken from the left. -/
theorem expression_exact_differences :
    let place : Option Position := some ⟨"page", {}⟩
    let tokens : List Token := [⟨.identifier, "a", {}⟩, ⟨.operator, "-", {}⟩,
      ⟨.identifier, "b", {}⟩, ⟨.operator, "-", {}⟩, ⟨.identifier, "c", {}⟩, ⟨.blockClose, "", {}⟩]
    let expr : Expr := .binary (.arithmetic .sub)
      (.binary (.arithmetic .sub) (.reference "a" [] place) (.reference "b" [] place) place)
      (.reference "c" [] place) place
    Whole "page" 1 tokens (tokens.drop 5) expr ∧
      expression 1 (.behind "page" tokens 0) = .ok (expr, .behind "page" tokens 5) := by
  intro place tokens expr
  have run : expression 1 (.behind "page" tokens 0) = .ok (expr, .behind "page" tokens 5) := by cbv
  obtain ⟨stop, _, _, same, derived⟩ := (expression_exact 1 "page" tokens 0).1 _ _ run
  have rest : tokens.drop 5 = tokens.drop stop := congrArg Cursor.rest same
  rw [← rest] at derived
  have closes : ahead (tokens.drop 5) ∈
      [.rightParen, .rightBracket, .comma, .expressionClose, .blockClose, .endOfInput] :=
    .tail _ (.tail _ (.tail _ (.tail _ (.head _))))
  exact ⟨derived, (expression_exact 1 "page" tokens 0).2 5 _ derived closes⟩

end Grammar

end Templating
