import Templating.Grammar.Body
import Templating.Proofs.Nesting.Lookahead

/-!
No expression is read beyond the close of the tag that it stands in.
-/

namespace Templating.Grammar

open Templating.Parser

variable {α β : Type}

theorem isInside_of_level {level : Level} (known : level ∈ levels) {token : Token}
    {operator : BinaryOperator} (reads : level token = some operator) : token.kind.isInside := by
  by_cases keyword : token.kind = .keyword
  · rw [keyword]
    decide
  by_cases symbol : token.kind = .operator
  · rw [symbol]
    decide
  rw [level_eq_none known keyword symbol] at reads
  cases reads

theorem isInside_of_unary {token : Token} {operator : UnaryOperator}
    (reads : unaryOperator? token = some operator) : token.kind.isInside := by
  by_cases keyword : token.kind = .keyword
  · rw [keyword]
    decide
  by_cases symbol : token.kind = .operator
  · rw [symbol]
    decide
  simp [unaryOperator?, Token.isKeyword, Token.isOperator, keyword, symbol] at reads

theorem isInside_of_bareArgument {kind : TokenKind} (starts : startsBareArgument kind) :
    kind.isInside := by
  revert starts
  cases kind <;> decide

theorem numeral_confined (token : Token) : Confined 0 (numeral token) := by
  intro bound
  unfold numeral
  split
  · exact Follows.pure _
  · exact Follows.refuse

/-- The index in brackets is looked at first, and then passed. -/
theorem bracketed_follows {bound least : Nat} {onwards others : Segment → Parser β}
    (continues : ∀ segment few, few + 1 ≤ bound →
      Follows [] few (least - 1) (onwards segment) (others segment)) :
    Follows [] bound least (bracketed >>= fun segment => advance >>= fun _ => onwards segment)
      (bracketed >>= fun segment => advance >>= fun _ => others segment) := by
  simp only [bracketed, bind_assoc]
  apply Follows.current
  intro index
  split
  case isTrue whole =>
    have number : index.kind = .number := by
      simp only [isWholeNumeral, Bool.and_eq_true, beq_iff_eq] at whole
      exact whole.1.1
    unfold numeral
    split
    case h_1 value _ =>
      cases value with
      | int position =>
          simp only [pure_bind]
          exact Follows.advance (by rw [number]; decide) fun few => continues _ few
      | float _ => exact Follows.refuseBind
    case h_2 => exact Follows.refuseBind
  case isFalse =>
    split
    case isTrue string =>
      simp only [pure_bind]
      exact Follows.advance (by rw [string]; decide) fun few => continues _ few
    case isFalse => exact Follows.refuseBind

theorem pathRest_follows {bound one other : Nat} (enough : bound < one)
    (enoughOther : bound < other) (path : List Segment) :
    Follows [] bound 0 (pathRest one path) (pathRest other path) := by
  apply Follows.loop ?_ enough enoughOther
  intro bound one other path again
  rw [pathRest, pathRest]
  apply Follows.accept (by decide)
  · intro few less
    apply Follows.expect (by decide)
    intro name fewer _
    exact again _ (by omega) _
  · apply Follows.accept (by decide)
    · intro few less
      apply bracketed_follows
      intro segment fewer _
      apply Follows.expect (by decide)
      intro _ fewest _
      exact again _ (by omega) _
    · exact Follows.pure _

theorem reference_follows {bound : Nat} {token : Token} (identifier : token.kind = .identifier) :
    Follows [token] bound 1 reference reference := by
  rw [reference]
  apply Follows.advance (by rw [identifier]; decide)
  intro few _
  apply Follows.size
  intro few one other _ enough enoughOther
  apply (pathRest_follows enough enoughOther []).bind
  intro path
  exact Follows.position fun _ => Follows.pure _

theorem binaryRest_follows {level : Level} (known : level ∈ levels) {operand : Parser Expr}
    (confined : Confined 0 operand) {bound one other : Nat} (enough : bound < one)
    (enoughOther : bound < other) (left : Expr) :
    Follows [] bound 0 (binaryRest level operand one left)
      (binaryRest level operand other left) := by
  apply Follows.loop ?_ enough enoughOther
  intro bound one other left again
  rw [binaryRest, binaryRest]
  apply Follows.current
  intro token
  cases reads : level token with
  | none => exact Follows.anywhere (Follows.pure _)
  | some operator =>
      apply Follows.advance (isInside_of_level known reads)
      intro few _
      apply (confined few).bind
      intro right
      apply Follows.position
      intro position
      exact again _ (by omega) _

theorem disjunction_confined {operand : Parser Expr} (confined : Confined 0 operand) :
    Confined 0 (disjunction operand) := by
  have all : ∀ part : List Level, part ⊆ levels → Confined 0 (part.foldr binaryLevel operand) := by
    intro part known
    induction part with
    | nil => exact confined
    | cons level part ih =>
        obtain ⟨first, rest⟩ := List.cons_subset.mp known
        intro bound
        rw [List.foldr_cons, binaryLevel]
        apply (ih rest bound).bind
        intro left
        apply Follows.size
        intro few one other _ enough enoughOther
        exact binaryRest_follows first (ih rest) enough enoughOther left
  rw [disjunction_eq]
  exact all levels (List.Subset.refl _)

section

variable {nested : Parser Expr} (confined : Confined 0 nested)

include confined

theorem itemsRest_follows {bound one other : Nat} (enough : bound < one)
    (enoughOther : bound < other) (items : List Expr) :
    Follows [] bound 0 (itemsRest nested one items) (itemsRest nested other items) := by
  apply Follows.loop ?_ enough enoughOther
  intro bound one other items again
  rw [itemsRest, itemsRest]
  apply (confined bound).bind
  intro item
  apply Follows.accept (by decide)
  · exact fun few _ => Follows.pure _
  · apply Follows.expect (by decide)
    intro _ few _
    exact again _ (by omega) _

theorem listItems_confined : Confined 0 (listItems nested) := by
  intro bound
  rw [listItems]
  apply Follows.accept (by decide)
  · exact fun few _ => Follows.pure _
  · apply Follows.size
    intro few one other _ enough enoughOther
    exact itemsRest_follows confined enough enoughOther []

/-- What no operator splits takes at least one token. -/
theorem primary_confined : Confined 1 (primary nested) := by
  intro bound
  rw [primary]
  apply Follows.current
  intro token
  split
  case h_1 kind =>
    apply Follows.advance (by rw [kind]; decide)
    intro few _
    apply (numeral_confined token few).bind
    exact fun number => Follows.position fun _ => Follows.pure _
  case h_2 kind =>
    apply Follows.advance (by rw [kind]; decide)
    exact fun few _ => Follows.position fun _ => Follows.pure _
  case h_3 kind =>
    apply Follows.advance (by rw [kind]; decide)
    exact fun few _ => Follows.position fun _ => Follows.pure _
  case h_4 kind =>
    apply Follows.advance (by rw [kind]; decide)
    exact fun few _ => Follows.position fun _ => Follows.pure _
  case h_5 kind =>
    apply Follows.advance (by rw [kind]; decide)
    intro few _
    apply (listItems_confined confined few).bind
    exact fun items => Follows.position fun _ => Follows.pure _
  case h_6 kind =>
    apply Follows.advance (by rw [kind]; decide)
    intro few _
    apply (confined few).bind
    intro inside
    apply Follows.expect (by decide)
    exact fun _ _ _ => Follows.pure _
  case h_7 kind => exact reference_follows kind
  case h_8 => exact Follows.anywhere Follows.unexpected

end

theorem argument_confined {value : Parser Expr} {least : Nat} (confined : Confined least value)
    (before : Arguments) : Confined least (argument value before) := by
  intro bound
  have returns : ∀ {few : Nat} (arguments : Expr → Arguments),
      Follows [] few least (do return arguments (← value)) (do return arguments (← value)) := by
    intro few arguments
    apply (confined few).bind
    intro read
    rw [Nat.sub_self]
    exact Follows.pure _
  rw [argument]
  apply Follows.current
  intro token
  have positional : ∀ {coming : List Token}, Follows coming bound least
      (if !before.named.isEmpty then refuse .positionalAfterNamed token
        else do return { before with positional := before.positional ++ [← value] })
      (if !before.named.isEmpty then refuse .positionalAfterNamed token
        else do return { before with positional := before.positional ++ [← value] }) := by
    intro coming
    split
    · exact Follows.refuse
    · exact Follows.anywhere (returns _)
  by_cases word : token.kind = .identifier ∨ token.kind = .string
  case pos =>
    have inside : token.kind.isInside := by rcases word with kind | kind <;> rw [kind] <;> decide
    apply Follows.next inside
    intro following
    split
    case isTrue named =>
      rw [Bool.and_eq_true, decide_eq_true_iff] at named
      have colon : following.kind = .colon := named.2
      split
      · exact Follows.refuse
      · apply Follows.advance inside
        intro few _
        apply Follows.advance (by rw [colon]; decide)
        intro fewer _
        exact (returns _).fewer (by omega)
    case isFalse => exact positional
  case neg =>
    -- The token behind may be out of the tag, but it is not asked for.
    have unnamed : (token.kind = .identifier || token.kind = .string : Bool) = false := by
      simpa using word
    simp only [unnamed, Bool.false_and, Bool.false_eq_true, if_false]
    exact positional

theorem argumentsRest_follows {nested : Parser Expr} (confined : Confined 0 nested)
    {bound one other : Nat} (enough : bound < one) (enoughOther : bound < other)
    (before : Arguments) :
    Follows [] bound 0 (argumentsRest nested one before) (argumentsRest nested other before) := by
  apply Follows.loop ?_ enough enoughOther
  intro bound one other before again
  rw [argumentsRest, argumentsRest]
  apply (argument_confined confined before bound).bind
  intro arguments
  apply Follows.accept (by decide)
  · exact fun few _ => Follows.pure _
  · apply Follows.expect (by decide)
    intro _ few _
    exact again _ (by omega) _

theorem closedArguments_confined {nested : Parser Expr} (confined : Confined 0 nested) :
    Confined 0 (closedArguments nested) := by
  intro bound
  rw [closedArguments]
  apply Follows.accept (by decide)
  · exact fun few _ => Follows.pure _
  · apply Follows.size
    intro few one other _ enough enoughOther
    exact argumentsRest_follows confined enough enoughOther {}

theorem bareArguments_follows {value : Parser Expr} (confined : Confined 1 value)
    {bound one other : Nat} (enough : bound < one) (enoughOther : bound < other)
    (before : Arguments) :
    Follows [] bound 0 (bareArguments value one before) (bareArguments value other before) := by
  apply Follows.loop ?_ enough enoughOther
  intro bound one other before again
  rw [bareArguments, bareArguments]
  apply Follows.current
  intro token
  split
  case isTrue starts =>
    apply Follows.ofInside (isInside_of_bareArgument starts)
    intro some
    apply (Follows.anywhere (argument_confined confined before bound)).bind
    intro arguments
    exact again _ (by omega) arguments
  case isFalse => exact Follows.pure _

theorem filtersRest_follows {nested : Parser Expr} (confined : Confined 0 nested)
    {bound one other : Nat} (enough : bound < one) (enoughOther : bound < other) (base : Expr) :
    Follows [] bound 0 (filtersRest nested one base) (filtersRest nested other base) := by
  apply Follows.loop ?_ enough enoughOther
  intro bound one other base again
  rw [filtersRest, filtersRest]
  apply Follows.accept (by decide)
  · intro few _
    apply Follows.expect (by decide)
    intro name fewer _
    have continues : ∀ {fewest : Nat}, fewest ≤ fewer → ∀ arguments : Arguments,
        Follows [] fewest 0
          (do filtersRest nested one (.filter base name.value arguments.positional
            arguments.named (← positionOf name)))
          (do filtersRest nested other (.filter base name.value arguments.positional
            arguments.named (← positionOf name))) := by
      intro fewest less arguments
      exact Follows.position fun _ => again _ (by omega) _
    apply Follows.accept (by decide)
    · intro fewest _
      exact (closedArguments_confined confined fewest).bind (continues (by omega))
    · apply Follows.size
      intro fewest turns otherTurns _ enough enoughOther
      exact (bareArguments_follows (primary_confined confined) enough enoughOther {}).bind
        (continues (by omega))
  · exact Follows.pure _

theorem filtered_confined {unary nested : Parser Expr} (operand : Confined 0 unary)
    (confined : Confined 0 nested) : Confined 0 (filtered unary nested) := by
  intro bound
  rw [filtered]
  apply (disjunction_confined operand bound).bind
  intro base
  apply Follows.size
  intro few one other _ enough enoughOther
  exact filtersRest_follows confined enough enoughOther base

theorem signed_confined {deeper : Token → Parser Expr} {unsplit : Parser Expr}
    (operand : ∀ token, Confined 0 (deeper token)) (confined : Confined 0 unsplit) :
    Confined 0 (signed deeper unsplit) := by
  intro bound
  rw [signed]
  apply Follows.current
  intro token
  cases reads : unaryOperator? token with
  | none => exact Follows.anywhere (confined bound)
  | some operator =>
      apply Follows.advance (isInside_of_unary reads)
      intro few _
      apply (operand token few).bind
      exact fun inside => Follows.position fun _ => Follows.pure _

theorem wholeAt_confined (limit : Int) (depth : Nat) :
    Confined 0 (wholeAt limit depth) ∧ Confined 0 (unaryAt limit depth) := by
  have here : Confined 0 (tooDeepHere limit) := fun _ => Follows.current fun _ => Follows.refuse
  have unsplit : ∀ {nested : Parser Expr}, Confined 0 nested → Confined 0 (primary nested) :=
    fun confined bound => (primary_confined confined bound).fewer (Nat.zero_le _)
  induction depth with
  | zero => exact ⟨here, signed_confined (fun _ _ => Follows.refuse) (unsplit here)⟩
  | succ depth ih =>
      exact ⟨filtered_confined ih.2 ih.1, signed_confined (fun _ => ih.2)
        (unsplit (filtered_confined ih.2 ih.1))⟩

/-- No expression is read beyond its tag. -/
theorem expression_confined (limit : Int) : Confined 0 (expression limit) :=
  (wholeAt_confined limit limit.toNat).1

theorem loopTargets_confined : Confined 0 loopTargets := by
  intro bound
  rw [loopTargets]
  apply Follows.expect (by decide)
  intro first few _
  apply Follows.accept (by decide)
  · intro fewer _
    apply Follows.expect (by decide)
    intro second fewest _
    split
    · exact Follows.unexpected
    · exact Follows.pure _
  · exact Follows.pure _

theorem bindingPair_confined {whole : Parser Expr} (confined : Confined 0 whole) :
    Confined 0 (bindingPair whole) := by
  intro bound
  rw [bindingPair]
  apply Follows.expect (by decide)
  intro name few _
  apply Follows.expect (by decide)
  intro _ fewer _
  exact (confined fewer).bind fun value => Follows.pure _

theorem bindingsRest_follows {whole : Parser Expr} (confined : Confined 0 whole)
    {bound one other : Nat} (enough : bound < one) (enoughOther : bound < other)
    (before : List (String × Expr)) :
    Follows [] bound 0 (bindingsRest whole one before) (bindingsRest whole other before) := by
  apply Follows.loop ?_ enough enoughOther
  intro bound one other before again
  rw [bindingsRest, bindingsRest]
  apply (bindingPair_confined confined bound).bind
  intro pair
  apply Follows.accept (by decide)
  · intro few _
    exact again _ (by omega) _
  · exact Follows.pure _

end Templating.Grammar
