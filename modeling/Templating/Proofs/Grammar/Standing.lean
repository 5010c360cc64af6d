import Templating.Proofs.Grammar.Levels
import Templating.Proofs.Grammar.Stays

/-!
Expressions stand where their tokens do: every place in an expression is that of a token at hand, and
so is the token that is blamed when there is no expression.
-/

namespace Templating

namespace Grammar

open Templating.Parser

variable {template : String} {marks : Mark → Prop}

theorem numeral_stays {token : Token} (marked : marks token.mark) :
    Stays template marks (numeral token) fun _ => True := by
  rw [numeral]
  split
  · exact .pure trivial
  · exact .refuse marked

theorem bracketed_stays : Stays template marks bracketed fun _ => True := by
  refine .bind .current fun index marked => ?_
  split
  · refine .bind (numeral_stays marked) fun number _ => ?_
    cases number with
    | int => exact .pure trivial
    | float => exact .unexpected marked
  · split
    · exact .pure trivial
    · exact .unexpected marked

theorem pathRest_stays (budget : Nat) (path : List Segment) :
    Stays template marks (pathRest budget path) fun _ => True := by
  induction budget generalizing path with
  | zero => exact .pure trivial
  | succ budget ih =>
      rw [pathRest]
      refine .bind .accept fun dotted _ => ?_
      split
      · exact .bind .expect fun _ _ => ih _
      · refine .bind .accept fun opened _ => ?_
        split
        · exact .bind bracketed_stays fun _ _ => .bind .advance fun _ _ =>
            .bind .expect fun _ _ => ih _
        · exact .pure trivial

theorem reference_stays : Stays template marks reference (Expr.Stands template marks) := by
  refine .bind .advance fun first marked => .bind .size fun _ _ => ?_
  refine .bind (pathRest_stays _ _) fun path _ => .bind (.position marked) fun place placed => ?_
  exact .pure (Expr.stands_iff.mpr ⟨placed, List.forall_mem_nil _⟩)

theorem binaryRest_stays {operator? : Token → Option BinaryOperator} {operand : Parser Expr}
    (stays : Stays template marks operand (Expr.Stands template marks)) {budget : Nat} {left : Expr}
    (stands : left.Stands template marks) :
    Stays template marks (binaryRest operator? operand budget left)
      (Expr.Stands template marks) := by
  induction budget generalizing left with
  | zero => exact .pure stands
  | succ budget ih =>
      rw [binaryRest]
      refine .bind .current fun token marked => ?_
      cases operator? token with
      | none => exact .pure stands
      | some operator =>
          refine .bind .advance fun _ _ => .bind stays fun right standsRight => ?_
          refine .bind (.position marked) fun place placed => ih (Expr.stands_iff.mpr ⟨placed, ?_⟩)
          exact List.forall_mem_cons.mpr ⟨stands, List.forall_mem_singleton.mpr standsRight⟩

theorem disjunction_stays {operand : Parser Expr}
    (stays : Stays template marks operand (Expr.Stands template marks)) :
    Stays template marks (disjunction operand) (Expr.Stands template marks) := by
  rw [disjunction_eq]
  induction levels with
  | nil => exact stays
  | cons level others ih =>
      exact .bind ih fun left stands => .bind .size fun _ _ => binaryRest_stays ih stands

/-- All arguments read so far stand at the marks. -/
structure Arguments.Stand (template : String) (marks : Mark → Prop) (arguments : Arguments) :
    Prop where
  positional : ∀ item ∈ arguments.positional, item.Stands template marks
  named : ∀ pair ∈ arguments.named, pair.2.Stands template marks

theorem Arguments.stand_nil : Arguments.Stand template marks {} :=
  ⟨List.forall_mem_nil _, List.forall_mem_nil _⟩

section

variable {nested : Parser Expr} (stays : Stays template marks nested (Expr.Stands template marks))

include stays

theorem itemsRest_stays {budget : Nat} {items : List Expr}
    (stand : ∀ item ∈ items, item.Stands template marks) :
    Stays template marks (itemsRest nested budget items) fun items =>
      ∀ item ∈ items, item.Stands template marks := by
  induction budget generalizing items with
  | zero =>
      exact .bind stays fun item stands => .pure
        (List.forall_mem_append.mpr ⟨stand, List.forall_mem_singleton.mpr stands⟩)
  | succ budget ih =>
      rw [itemsRest]
      refine .bind stays fun item stands => .bind .accept fun closed _ => ?_
      have more := List.forall_mem_append.mpr ⟨stand, List.forall_mem_singleton.mpr stands⟩
      split
      · exact .pure more
      · exact .bind .expect fun _ _ => ih more

theorem listItems_stays : Stays template marks (listItems nested) fun items =>
    ∀ item ∈ items, item.Stands template marks := by
  refine .bind .accept fun closed _ => ?_
  split
  · exact .pure (List.forall_mem_nil _)
  · exact .bind .size fun _ _ => itemsRest_stays stays (List.forall_mem_nil _)

theorem primary_stays : Stays template marks (primary nested) (Expr.Stands template marks) := by
  have literal {value : Value} {place : Option Position} (placed : Placed template marks place) :
      (Expr.literal value place).Stands template marks :=
    Expr.stands_iff.mpr ⟨placed, List.forall_mem_nil _⟩
  refine .bind .current fun token marked => ?_
  cases token.kind with
  | number =>
      exact .bind .advance fun _ _ => .bind (numeral_stays marked) fun _ _ =>
        .bind (.position marked) fun _ placed => .pure (literal placed)
  | string | boolean | null =>
      exact .bind .advance fun _ _ => .bind (.position marked) fun _ placed =>
        .pure (literal placed)
  | leftBracket =>
      refine .bind .advance fun _ _ => .bind (listItems_stays stays) fun items stand => ?_
      exact .bind (.position marked) fun _ placed => .pure (Expr.stands_iff.mpr ⟨placed, stand⟩)
  | leftParen =>
      exact .bind .advance fun _ _ => .bind stays fun _ stands => .bind .expect fun _ _ =>
        .pure stands
  | identifier => exact reference_stays
  | _ => exact .unexpected marked

theorem argument_stays {before : Arguments} (stand : before.Stand template marks) :
    Stays template marks (argument nested before) (Arguments.Stand template marks) := by
  refine .bind .current fun token marked => .bind .next fun _ _ => ?_
  split
  · split
    · exact .refuse marked
    · refine .bind .advance fun _ _ => .bind .advance fun _ _ => .bind stays fun value stands => ?_
      exact .pure ⟨stand.positional,
        List.forall_mem_append.mpr ⟨stand.named, List.forall_mem_singleton.mpr stands⟩⟩
  · split
    · exact .refuse marked
    · refine .bind stays fun value stands => ?_
      exact .pure ⟨List.forall_mem_append.mpr
        ⟨stand.positional, List.forall_mem_singleton.mpr stands⟩, stand.named⟩

theorem argumentsRest_stays {budget : Nat} {before : Arguments}
    (stand : before.Stand template marks) :
    Stays template marks (argumentsRest nested budget before) (Arguments.Stand template marks) := by
  induction budget generalizing before with
  | zero => exact argument_stays stays stand
  | succ budget ih =>
      rw [argumentsRest]
      refine .bind (argument_stays stays stand) fun arguments more => .bind .accept fun closed _ => ?_
      split
      · exact .pure more
      · exact .bind .expect fun _ _ => ih more

theorem closedArguments_stays :
    Stays template marks (closedArguments nested) (Arguments.Stand template marks) := by
  refine .bind .accept fun closed _ => ?_
  split
  · exact .pure Arguments.stand_nil
  · exact .bind .size fun _ _ => argumentsRest_stays stays Arguments.stand_nil

theorem bareArguments_stays {budget : Nat} {before : Arguments}
    (stand : before.Stand template marks) :
    Stays template marks (bareArguments nested budget before) (Arguments.Stand template marks) := by
  induction budget generalizing before with
  | zero => exact .pure stand
  | succ budget ih =>
      rw [bareArguments]
      refine .bind .current fun token _ => ?_
      split
      · exact .bind (argument_stays stays stand) fun arguments more => ih more
      · exact .pure stand

theorem filtersRest_stays {budget : Nat} {base : Expr} (stands : base.Stands template marks) :
    Stays template marks (filtersRest nested budget base) (Expr.Stands template marks) := by
  induction budget generalizing base with
  | zero => exact .pure stands
  | succ budget ih =>
      rw [filtersRest]
      refine .bind .accept fun piped _ => ?_
      split
      · refine .bind .expect fun name marked => .bind .accept fun opened _ => ?_
        have applied (arguments : Arguments) (stand : arguments.Stand template marks) :
            Stays template marks (do
                filtersRest nested budget (.filter base name.value arguments.positional
                  arguments.named (← positionOf name)))
              (Expr.Stands template marks) := by
          refine .bind (.position marked) fun place placed => ih (Expr.stands_iff.mpr ⟨placed, ?_⟩)
          exact List.forall_mem_cons.mpr ⟨stands, List.forall_mem_append.mpr
            ⟨stand.positional, List.forall_mem_map.mpr stand.named⟩⟩
        split
        · exact .bind (closedArguments_stays stays) applied
        · exact .bind .size fun _ _ =>
            .bind (bareArguments_stays (primary_stays stays) Arguments.stand_nil) applied
      · exact .pure stands

theorem filtered_stays {unary : Parser Expr}
    (operand : Stays template marks unary (Expr.Stands template marks)) :
    Stays template marks (filtered unary nested) (Expr.Stands template marks) :=
  .bind (disjunction_stays operand) fun _ stands => .bind .size fun _ _ =>
    filtersRest_stays stays stands

end

theorem signed_stays {deeper : Token → Parser Expr} {unsplit : Parser Expr}
    (operand : ∀ token : Token, marks token.mark →
      Stays template marks (deeper token) (Expr.Stands template marks))
    (stays : Stays template marks unsplit (Expr.Stands template marks)) :
    Stays template marks (signed deeper unsplit) (Expr.Stands template marks) := by
  refine .bind .current fun token marked => ?_
  cases unaryOperator? token with
  | none => exact stays
  | some operator =>
      refine .bind .advance fun _ _ => .bind (operand token marked) fun inside stands => ?_
      refine .bind (.position marked) fun place placed => .pure (Expr.stands_iff.mpr ⟨placed, ?_⟩)
      exact List.forall_mem_singleton.mpr stands

theorem wholeAt_stays (limit : Int) (depth : Nat) :
    Stays template marks (wholeAt limit depth) (Expr.Stands template marks) ∧
      Stays template marks (unaryAt limit depth) (Expr.Stands template marks) := by
  have here : Stays template marks (tooDeepHere limit) (Expr.Stands template marks) :=
    .bind .current fun _ marked => .refuse marked
  induction depth with
  | zero => exact ⟨here, signed_stays (fun _ marked => .refuse marked) (primary_stays here)⟩
  | succ depth ih =>
      have whole := filtered_stays ih.1 ih.2
      exact ⟨whole, signed_stays (fun _ _ => ih.2) (primary_stays whole)⟩

theorem expression_stays (limit : Int) :
    Stays template marks (expression limit) (Expr.Stands template marks) :=
  (wholeAt_stays limit limit.toNat).1

end Grammar

end Templating
