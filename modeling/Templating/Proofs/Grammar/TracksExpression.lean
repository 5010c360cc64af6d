import Templating.Proofs.Every
import Templating.Proofs.Grammar.Tracks

/-!
Two runs over an expression. All numbers in an expression that is read are given by tokens before the
fork, so they satisfy what these tokens do.
-/

namespace Templating

/-- If the value is a number, the number satisfies the condition. -/
def Value.NumberIs (numbers : Number → Prop) : Value → Prop
  | .number value => numbers value
  | _ => True

/-- Every number that stands in the expression satisfies the condition. -/
abbrev Expr.Numbers (numbers : Number → Prop) (expr : Expr) : Prop :=
  expr.Every (Value.NumberIs numbers) fun _ => True

namespace Grammar

open Templating.Parser

variable {α β : Type} {numbers : Number → Prop} {stop other : Token} {coming : List Token}
  {bound least : Nat} {goal : β → Prop}

theorem numeral_tracks {token : Token} (kind : token.kind = .number) (gives : token.Gives numbers) :
    Tracks numbers stop other coming bound 0 (numeral token) (numeral token) numbers := by
  unfold numeral
  split
  case h_1 number read => exact Tracks.pure (gives kind number read)
  case h_2 => exact Tracks.refuse

theorem numeral_stopped (large : stop.IsTooLarge) (cursor : Cursor) :
    numeral stop cursor = .error (.numberTooLarge stop.value, stop) := by
  simp [numeral, large.unread]

theorem isWholeNumeral_ends {token : Token} (kind : token.kind = .endOfInput) :
    isWholeNumeral token = false := by
  simp [isWholeNumeral, kind]

/-- The index in brackets is looked at first, and then passed. -/
theorem bracketed_tracks {onwards : Segment → Parser β}
    (continues : ∀ segment few, few + 1 ≤ bound →
      Tracks numbers stop other [] few (least - 1) (onwards segment) (onwards segment) goal) :
    Tracks numbers stop other [] bound least
      (bracketed >>= fun segment => advance >>= fun _ => onwards segment)
      (bracketed >>= fun segment => advance >>= fun _ => onwards segment) goal := by
  simp only [bracketed, bind_assoc]
  apply Tracks.current
  · intro index _
    split
    · unfold numeral
      split
      case h_1 value _ =>
        cases value with
        | int position =>
            simp only [pure_bind]
            exact Tracks.advance (continues _)
        | float _ => exact Tracks.refuseBind
      case h_2 => exact Tracks.refuseBind
    · split
      · simp only [pure_bind]
        exact Tracks.advance (continues _)
      · exact Tracks.refuseBind
  · apply Tracks.atFork
    · rintro rfl kind
      simp only [isWholeNumeral_ends kind, kind]
      exact Tracks.refuseBind
    · intro large _
      apply Tracks.stopped
      intro cursor
      simp [large.whole, numeral_stopped large]

theorem pathRest_steady (budget : Nat) (path : List Segment) :
    Steady numbers stop other (pathRest budget path) fun _ => True := by
  intro bound
  induction budget generalizing path bound with
  | zero => exact Tracks.pure trivial
  | succ budget ih =>
      rw [pathRest]
      apply Tracks.accept (by decide)
      · intro few _
        exact Tracks.expect (by decide) fun name few _ => ih _ _
      · apply Tracks.accept (by decide)
        · intro few _
          apply bracketed_tracks
          intro segment few _
          exact Tracks.expect (by decide) fun _ few _ => ih _ _
        · exact Tracks.pure trivial

theorem reference_tracks {token : Token} :
    Tracks numbers stop other [token] bound 0 reference reference (Expr.Numbers numbers) := by
  rw [reference]
  apply Tracks.advance
  intro few _
  apply Tracks.size
  intro few budget _ _
  apply (pathRest_steady budget [] few).bind
  intro path _
  exact Tracks.position fun _ => Tracks.pure trivial

/-- No operator stands at the fork. -/
theorem level_fork {level : Level} (known : level ∈ levels) (fork : Fork stop other) :
    level stop = none ∧ level other = none :=
  ⟨level_eq_none known (fork.stop_ne (by decide)) (fork.stop_ne (by decide)),
    level_eq_none known (fork.other_ne (by decide)) (fork.other_ne (by decide))⟩

theorem binaryRest_steady {level : Level} (known : level ∈ levels) {operand : Parser Expr}
    (steady : Steady numbers stop other operand (Expr.Numbers numbers)) (budget : Nat) {left : Expr}
    (holds : left.Numbers numbers) :
    Steady numbers stop other (binaryRest level operand budget left) (Expr.Numbers numbers) := by
  intro bound
  induction budget generalizing left bound with
  | zero => exact Tracks.pure holds
  | succ budget ih =>
      rw [binaryRest]
      apply Tracks.current
      · intro token _
        cases level token with
        | none => exact Tracks.pure holds
        | some operator =>
            apply Tracks.advance
            intro few _
            apply (steady few).bind
            intro right good
            apply Tracks.position
            intro position
            have both : (Expr.binary operator left right position).Numbers numbers :=
              ⟨holds, good⟩
            exact ih both _
      · apply Tracks.ofFork
        intro fork
        rw [(level_fork known fork).1, (level_fork known fork).2]
        exact Tracks.pure holds

theorem disjunction_steady {operand : Parser Expr}
    (steady : Steady numbers stop other operand (Expr.Numbers numbers)) :
    Steady numbers stop other (disjunction operand) (Expr.Numbers numbers) := by
  have all : ∀ part : List Level, part ⊆ levels →
      Steady numbers stop other (part.foldr binaryLevel operand) (Expr.Numbers numbers) := by
    intro part known
    induction part with
    | nil => exact steady
    | cons level part ih =>
        obtain ⟨first, rest⟩ := List.cons_subset.mp known
        intro bound
        rw [List.foldr_cons, binaryLevel]
        apply (ih rest bound).bind
        intro left good
        exact Tracks.size fun few budget _ _ => binaryRest_steady first (ih rest) budget good few
  rw [disjunction_eq]
  exact all levels (List.Subset.refl _)

section

variable {nested : Parser Expr}
  (steady : Steady numbers stop other nested (Expr.Numbers numbers))

include steady

theorem itemsRest_steady (budget : Nat) {items : List Expr}
    (all : ∀ item ∈ items, item.Numbers numbers) :
    Steady numbers stop other (itemsRest nested budget items) fun items =>
      ∀ item ∈ items, item.Numbers numbers := by
  have more {last : Expr} {items : List Expr} (all : ∀ item ∈ items, item.Numbers numbers)
      (good : last.Numbers numbers) : ∀ item ∈ items ++ [last], item.Numbers numbers :=
    List.forall_mem_append.mpr ⟨all, List.forall_mem_singleton.mpr good⟩
  intro bound
  induction budget generalizing items bound with
  | zero => exact (steady bound).bind fun item good => Tracks.pure (more all good)
  | succ budget ih =>
      rw [itemsRest]
      apply (steady bound).bind
      intro item good
      apply Tracks.accept (by decide)
      · exact fun few _ => Tracks.pure (more all good)
      · exact Tracks.expect (by decide) fun _ few _ => ih (more all good) few

theorem listItems_steady : Steady numbers stop other (listItems nested) fun items =>
    ∀ item ∈ items, item.Numbers numbers := by
  intro bound
  rw [listItems]
  apply Tracks.accept (by decide)
  · exact fun few _ => Tracks.pure (List.forall_mem_nil _)
  · exact Tracks.size fun few budget _ _ =>
      itemsRest_steady steady budget (List.forall_mem_nil _) few

/-- The only parser that passes a number. -/
theorem primary_steady : Steady numbers stop other (primary nested) (Expr.Numbers numbers) := by
  intro bound
  rw [primary]
  apply Tracks.current
  · intro token gives
    cases kind : token.kind with
    | number =>
        apply Tracks.advance
        intro few _
        apply (numeral_tracks kind gives).bind
        exact fun number good => Tracks.position fun _ => Tracks.pure good
    | string | boolean | null =>
        exact Tracks.advance fun few _ => Tracks.position fun _ => Tracks.pure trivial
    | leftBracket =>
        apply Tracks.advance
        intro few _
        apply (listItems_steady steady few).bind
        exact fun items all => Tracks.position fun _ => Tracks.pure (Expr.allEvery_iff.mpr all)
    | leftParen =>
        apply Tracks.advance
        intro few _
        apply (steady few).bind
        exact fun inside good => Tracks.expect (by decide) fun _ few _ => Tracks.pure good
    | identifier => exact reference_tracks
    | _ => exact Tracks.unexpected
  · apply Tracks.atFork
    · rintro rfl kind
      simp only [kind]
      exact Tracks.unexpected
    · intro large _
      apply Tracks.stopped
      intro cursor
      simp [large.kind, numeral_stopped large]

/-- All numbers in the arguments satisfy the condition. -/
structure Arguments.Numbers (numbers : Number → Prop) (arguments : Arguments) : Prop where
  positional : ∀ item ∈ arguments.positional, item.Numbers numbers
  named : ∀ pair ∈ arguments.named, pair.2.Numbers numbers

theorem argument_steady {before : Arguments} (all : before.Numbers numbers) :
    Steady numbers stop other (argument nested before) (Arguments.Numbers numbers) := by
  have positional {bound : Nat} {coming : List Token} (token another : Token) :
      Tracks numbers stop other coming bound 0
        (if !before.named.isEmpty then refuse .positionalAfterNamed token
          else do return { before with positional := before.positional ++ [← nested] })
        (if !before.named.isEmpty then refuse .positionalAfterNamed another
          else do return { before with positional := before.positional ++ [← nested] })
        (Arguments.Numbers numbers) := by
    split
    · exact Tracks.refuse
    · apply Tracks.anywhere
      apply (steady bound).bind
      intro value good
      exact Tracks.pure ⟨List.forall_mem_append.mpr
        ⟨all.positional, List.forall_mem_singleton.mpr good⟩, all.named⟩
  intro bound
  rw [argument]
  apply Tracks.current
  · intro token _
    apply Tracks.next
    · intro following
      split
      · split
        · exact Tracks.refuse
        · apply Tracks.advance
          intro few _
          apply Tracks.advance
          intro few _
          apply (steady few).bind
          intro value good
          exact Tracks.pure ⟨all.positional, List.forall_mem_append.mpr
            ⟨all.named, List.forall_mem_singleton.mpr good⟩⟩
      · exact positional token token
    · apply Tracks.ofFork
      intro fork
      have noColon := fork.stop_ne (by decide : TokenKind.colon.isShared)
      have noColonOther := fork.other_ne (by decide : TokenKind.colon.isShared)
      simp only [noColon, noColonOther, decide_false, Bool.and_false, Bool.false_eq_true, if_false]
      exact positional token token
  · apply Tracks.nextForked
    intro following another
    apply Tracks.ofFork
    intro fork
    have noName := fork.stop_ne (by decide : TokenKind.identifier.isShared)
    have noNameOther := fork.other_ne (by decide : TokenKind.identifier.isShared)
    have noString := fork.stop_ne (by decide : TokenKind.string.isShared)
    have noStringOther := fork.other_ne (by decide : TokenKind.string.isShared)
    simp only [noName, noNameOther, noString, noStringOther, decide_false, Bool.or_false,
      Bool.false_and, Bool.false_eq_true, if_false]
    exact positional stop other

theorem argumentsRest_steady (budget : Nat) {before : Arguments} (all : before.Numbers numbers) :
    Steady numbers stop other (argumentsRest nested budget before) (Arguments.Numbers numbers) := by
  intro bound
  induction budget generalizing before bound with
  | zero => exact argument_steady steady all bound
  | succ budget ih =>
      rw [argumentsRest]
      apply (argument_steady steady all bound).bind
      intro arguments more
      apply Tracks.accept (by decide)
      · exact fun few _ => Tracks.pure more
      · exact Tracks.expect (by decide) fun _ few _ => ih more few

theorem closedArguments_steady :
    Steady numbers stop other (closedArguments nested) (Arguments.Numbers numbers) := by
  have none : Arguments.Numbers numbers {} := ⟨List.forall_mem_nil _, List.forall_mem_nil _⟩
  intro bound
  rw [closedArguments]
  apply Tracks.accept (by decide)
  · exact fun few _ => Tracks.pure none
  · exact Tracks.size fun few budget _ _ => argumentsRest_steady steady budget none few

theorem bareArguments_steady (budget : Nat) {before : Arguments} (all : before.Numbers numbers) :
    Steady numbers stop other (bareArguments nested budget before) (Arguments.Numbers numbers) := by
  intro bound
  induction budget generalizing before bound with
  | zero => exact Tracks.pure all
  | succ budget ih =>
      have further {bound : Nat} {coming : List Token} (starts : Bool) :
          Tracks numbers stop other coming bound 0
            (if starts then do bareArguments nested budget (← argument nested before)
              else return before)
            (if starts then do bareArguments nested budget (← argument nested before)
              else return before) (Arguments.Numbers numbers) := by
        split
        · apply Tracks.anywhere
          exact (argument_steady steady all bound).bind fun arguments more => ih more _
        · exact Tracks.pure all
      rw [bareArguments]
      apply Tracks.current
      · exact fun token _ => further _
      · apply Tracks.ofFork
        intro fork
        rw [fork.same_kind]
        exact further _

theorem filtersRest_steady (budget : Nat) {base : Expr} (holds : base.Numbers numbers) :
    Steady numbers stop other (filtersRest nested budget base) (Expr.Numbers numbers) := by
  intro bound
  induction budget generalizing base bound with
  | zero => exact Tracks.pure holds
  | succ budget ih =>
      rw [filtersRest]
      apply Tracks.accept (by decide)
      · intro few _
        apply Tracks.expect (by decide)
        intro name few _
        have applied (few : Nat) (arguments : Arguments) (all : arguments.Numbers numbers) :
            Tracks numbers stop other [] few 0
              (do filtersRest nested budget (.filter base name.value arguments.positional
                arguments.named (← positionOf name)))
              (do filtersRest nested budget (.filter base name.value arguments.positional
                arguments.named (← positionOf name))) (Expr.Numbers numbers) := by
          apply Tracks.position
          intro position
          have whole : (Expr.filter base name.value arguments.positional arguments.named
              position).Numbers numbers :=
            ⟨trivial, holds, Expr.allEvery_iff.mpr all.positional,
              Expr.namedEvery_iff.mpr all.named⟩
          exact ih whole few
        apply Tracks.accept (by decide)
        · exact fun few _ => (closedArguments_steady steady few).bind (applied _)
        · apply Tracks.size
          intro few budget _ _
          have none : Arguments.Numbers numbers {} :=
            ⟨List.forall_mem_nil _, List.forall_mem_nil _⟩
          exact (bareArguments_steady (primary_steady steady) budget none few).bind (applied _)
      · exact Tracks.pure holds

theorem filtered_steady {unary : Parser Expr}
    (operand : Steady numbers stop other unary (Expr.Numbers numbers)) :
    Steady numbers stop other (filtered unary nested) (Expr.Numbers numbers) := by
  intro bound
  rw [filtered]
  apply (disjunction_steady operand bound).bind
  intro base good
  exact Tracks.size fun few budget _ _ => filtersRest_steady steady budget good few

end

theorem signed_steady {deeper : Token → Parser Expr} {unsplit : Parser Expr}
    (operand : ∀ token, Steady numbers stop other (deeper token) (Expr.Numbers numbers))
    (steady : Steady numbers stop other unsplit (Expr.Numbers numbers)) :
    Steady numbers stop other (signed deeper unsplit) (Expr.Numbers numbers) := by
  intro bound
  rw [signed]
  apply Tracks.current
  · intro token _
    cases unaryOperator? token with
    | none => exact Tracks.anywhere (steady bound)
    | some operator =>
        apply Tracks.advance
        intro few _
        apply (operand token few).bind
        exact fun inside good => Tracks.position fun _ => Tracks.pure good
  · apply Tracks.ofFork
    intro fork
    have noSign : unaryOperator? stop = none := by
      simp [unaryOperator?, fork.not_keyword, fork.not_operator]
    have noSignOther : unaryOperator? other = none := by
      simp [unaryOperator?, fork.not_keyword, fork.not_operator]
    rw [noSign, noSignOther]
    exact steady 0

theorem wholeAt_steady (limit : Int) (depth : Nat) :
    Steady numbers stop other (wholeAt limit depth) (Expr.Numbers numbers) ∧
      Steady numbers stop other (unaryAt limit depth) (Expr.Numbers numbers) := by
  have here : Steady numbers stop other (tooDeepHere limit) (Expr.Numbers numbers) :=
    fun bound => Tracks.current (fun _ _ => Tracks.refuse) Tracks.refuse
  induction depth with
  | zero => exact ⟨here, signed_steady (fun _ _ => Tracks.refuse) (primary_steady here)⟩
  | succ depth ih =>
      have whole := filtered_steady ih.1 ih.2
      exact ⟨whole, signed_steady (fun _ => ih.2) (primary_steady whole)⟩

theorem expression_steady (limit : Int) :
    Steady numbers stop other (expression limit) (Expr.Numbers numbers) :=
  (wholeAt_steady limit limit.toNat).1

end Grammar

end Templating
