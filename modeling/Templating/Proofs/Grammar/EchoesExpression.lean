import Templating.Proofs.Grammar.Arguments
import Templating.Proofs.Grammar.Echoes
import Templating.Proofs.Grammar.Levels

/-!
Two runs over an expression take the same steps, and come to the same expression, places aside.
-/

namespace Templating

open Grammar

theorem Token.Similar.unaryOperator? {one two : Token} (similar : one.Similar two) :
    Grammar.unaryOperator? one = Grammar.unaryOperator? two := by
  simp only [Grammar.unaryOperator?, similar.isOperator, similar.isKeyword]

theorem Token.Similar.level {one two : Token} (similar : one.Similar two) {level : Level}
    (known : level ∈ levels) : level one = level two := by
  by_cases text : one.kind = .text
  · have textToo : two.kind = .text := similar.kind ▸ text
    rw [level_eq_none known (by simp [text]) (by simp [text]),
      level_eq_none known (by simp [textToo]) (by simp [textToo])]
  · exact level_eq_of_lexeme known (similar.lexeme text)

/-- The expressions are the same, places aside. -/
def Expr.Like (one two : Expr) : Prop :=
  one.unplaced = two.unplaced

theorem Expr.Like.eq {one two : Expr} (like : one.Like two) : one.unplaced = two.unplaced :=
  like

/-- The expressions are the same one by one, places aside. -/
def Expr.AllLike (ones twos : List Expr) : Prop :=
  ones.map Expr.unplaced = twos.map Expr.unplaced

theorem Expr.AllLike.eq {ones twos : List Expr} (all : AllLike ones twos) :
    ones.map Expr.unplaced = twos.map Expr.unplaced :=
  all

/-- The named expressions have the same names and are the same one by one, places aside. -/
def Expr.NamedLike (ones twos : List (String × Expr)) : Prop :=
  (ones.map fun pair => (pair.1, pair.2.unplaced)) = twos.map fun pair => (pair.1, pair.2.unplaced)

theorem Expr.AllLike.snoc {ones twos : List Expr} {one two : Expr} (all : AllLike ones twos)
    (like : one.Like two) : AllLike (ones ++ [one]) (twos ++ [two]) := by
  simp only [AllLike, List.map_append] at all ⊢
  simp only [all, List.map_cons, List.map_nil, like.eq]

theorem Expr.NamedLike.snoc {ones twos : List (String × Expr)} {one two : Expr}
    (all : NamedLike ones twos) (name : String) (like : one.Like two) :
    NamedLike (ones ++ [(name, one)]) (twos ++ [(name, two)]) := by
  simp only [NamedLike, List.map_append] at all ⊢
  simp only [all, List.map_cons, List.map_nil, like.eq]

namespace Grammar

/-- The arguments are the same one by one, places aside. -/
structure Arguments.Like (one two : Arguments) : Prop where
  positional : Expr.AllLike one.positional two.positional
  named : Expr.NamedLike one.named two.named

namespace Arguments.Like

theorem none : Arguments.Like {} {} :=
  ⟨rfl, rfl⟩

variable {one two : Arguments}

theorem isEmpty (like : one.Like two) : one.named.isEmpty = two.named.isEmpty := by
  rw [← List.isEmpty_map (f := fun pair => (pair.1, pair.2.unplaced)), like.named, List.isEmpty_map]

theorem any (like : one.Like two) (name : String) :
    one.named.any (·.1 == name) = two.named.any (·.1 == name) := by
  have names := congrArg (fun pairs => pairs.any (·.1 == name)) like.named
  simpa only [List.any_map, Function.comp_def] using names

end Arguments.Like

open Templating.Parser

variable {α β : Type} {coming : List (Token × Token)} {bound limit least : Nat} {one two : Token}

theorem passed_of_level {level : Level} (known : level ∈ levels) {token : Token}
    {operator : BinaryOperator} (reads : level token = some operator) : token.kind.IsPassed := by
  have inside {kind : TokenKind} (noKeyword : kind ≠ .keyword) (noOperator : kind ≠ .operator) :
      token.kind ≠ kind := by
    rintro rfl
    rw [level_eq_none known noKeyword noOperator] at reads
    cases reads
  exact ⟨inside (by decide) (by decide), inside (by decide) (by decide)⟩

theorem passed_of_unary {token : Token} {operator : UnaryOperator}
    (reads : unaryOperator? token = some operator) : token.kind.IsPassed := by
  constructor <;> intro kind <;>
    simp [unaryOperator?, Token.isOperator, Token.isKeyword, kind] at reads

theorem numeral_mirrors (same : one.value = two.value) :
    Mirrors coming bound limit 0 (numeral one) (numeral two) Eq := by
  unfold numeral
  rw [same]
  split
  · exact .pure rfl
  · exact .refuse

theorem isWholeNumeral_eq (similar : one.Similar two) : isWholeNumeral one = isWholeNumeral two := by
  by_cases text : one.kind = .text
  · simp only [isWholeNumeral, ← similar.kind, text]
    rfl
  · simp only [isWholeNumeral, ← similar.kind, similar.value text]

/-- The index in brackets is looked at first, and then passed. -/
theorem bracketed_mirrors {onwards others : Segment → Parser β} {goal : β → β → Prop}
    (continues : ∀ segment,
      Mirrors [] (bound - 1) (limit - 1) (least - 1) (onwards segment) (others segment) goal) :
    Mirrors [] bound limit least (bracketed >>= fun segment => advance >>= fun _ => onwards segment)
      (bracketed >>= fun segment => advance >>= fun _ => others segment) goal := by
  simp only [bracketed, bind_assoc]
  refine Mirrors.current fun one two similar => ?_
  rw [← isWholeNumeral_eq similar, ← similar.kind]
  split
  case isTrue whole =>
    have number : one.kind = .number := by
      simp only [isWholeNumeral, Bool.and_eq_true, beq_iff_eq] at whole
      exact whole.1.1
    have passed : one.kind.IsPassed := by rw [number]; decide
    unfold numeral
    rw [← similar.value passed.noText]
    split
    case h_1 value _ =>
      cases value with
      | int position =>
          simp only [pure_bind]
          exact Mirrors.advance passed (continues _)
      | float _ => exact Mirrors.refuseBind
    case h_2 => exact Mirrors.refuseBind
  case isFalse =>
    split
    case isTrue quoted =>
      have passed : one.kind.IsPassed := by rw [quoted]; decide
      simp only [pure_bind, similar.value passed.noText]
      exact Mirrors.advance passed (continues _)
    case isFalse => exact Mirrors.refuseBind

theorem pathRest_mirrors (turns again : Nat) (path : List Segment) :
    Mirrors [] turns again 0 (pathRest turns path) (pathRest again path) Eq := by
  refine Mirrors.loop (fun turns again ih path _ same => ?_) turns again path path rfl
  subst same
  rw [pathRest, pathRest]
  refine Mirrors.accept (by decide) ?_ ?_
  · refine Mirrors.expect (by decide) fun name other similar kind => ?_
    rw [similar.value (by simp [kind])]
    exact (ih _ _ rfl).within (by omega) (by omega)
  · refine Mirrors.accept (by decide) ?_ (Mirrors.pure rfl)
    refine bracketed_mirrors fun segment => ?_
    refine Mirrors.expect (by decide) fun _ _ _ _ => ?_
    exact (ih _ _ rfl).within (by omega) (by omega)

theorem reference_mirrors (passed : one.kind.IsPassed) (similar : one.Similar two) :
    Mirrors ((one, two) :: coming) bound limit 1 reference reference Expr.Like := by
  refine Mirrors.advance passed (Mirrors.turns fun turns again => ?_)
  refine (pathRest_mirrors turns again []).anywhere.bind fun path _ same => ?_
  subst same
  refine Mirrors.position fun _ _ => Mirrors.pure ?_
  simp only [Expr.Like, Expr.unplaced, similar.value passed.noText]

theorem binaryRest_mirrors {level : Level} (known : level ∈ levels) {operand : Parser Expr}
    (faithful : Faithful operand Expr.Like) (turns again : Nat) {left other : Expr}
    (like : left.Like other) : Mirrors [] turns again 0 (binaryRest level operand turns left)
      (binaryRest level operand again other) Expr.Like := by
  refine Mirrors.loop (fun turns again ih left other like => ?_) turns again _ _ like
  rw [binaryRest, binaryRest]
  refine Mirrors.current fun one two similar => ?_
  rw [← similar.level known]
  cases reads : level one with
  | none => exact Mirrors.pure like
  | some operator =>
      refine Mirrors.advance (passed_of_level known reads) ?_
      refine (faithful _ _).bind fun right _ alike => Mirrors.position fun _ _ => ?_
      refine ih _ _ ?_
      simp only [Expr.Like, Expr.unplaced] at like alike ⊢
      rw [like, alike]

theorem disjunction_mirrors {operand : Parser Expr} (faithful : Faithful operand Expr.Like) :
    Faithful (disjunction operand) Expr.Like := by
  have all (part : List Level) (known : part ⊆ levels) :
      Faithful (part.foldr binaryLevel operand) Expr.Like := by
    induction part with
    | nil => exact faithful
    | cons level part ih =>
        obtain ⟨first, rest⟩ := List.cons_subset.mp known
        intro bound limit
        rw [List.foldr_cons, binaryLevel]
        refine (ih rest bound limit).bind fun left other like => ?_
        exact Mirrors.turns fun turns again => binaryRest_mirrors first (ih rest) turns again like
  rw [disjunction_eq]
  exact all levels (List.Subset.refl _)

theorem argument_mirrors {value : Parser Expr}
    (each : ∀ bound limit, Mirrors [] bound limit least value value Expr.Like)
    {before others : Arguments} (like : before.Like others) :
    Mirrors [] bound limit least (argument value before) (argument value others) Arguments.Like := by
  have positional {coming : List (Token × Token)} (one two : Token) :
      Mirrors coming bound limit least
        (if !before.named.isEmpty then refuse .positionalAfterNamed one
          else do return { before with positional := before.positional ++ [← value] })
        (if !others.named.isEmpty then refuse .positionalAfterNamed two
          else do return { others with positional := others.positional ++ [← value] })
        Arguments.Like := by
    rw [← like.isEmpty]
    split
    · exact Mirrors.refuse
    · refine (each _ _).anywhere.bind fun value other alike => ?_
      exact (Mirrors.pure ⟨like.positional.snoc alike, like.named⟩).atLeast (by omega)
  rw [argument, argument]
  refine Mirrors.current fun one two similar => ?_
  rw [← similar.kind]
  by_cases word : one.kind = .identifier ∨ one.kind = .string
  · have passed : one.kind.IsPassed := by
      rcases word with kind | kind <;> (rw [kind]; decide)
    refine Mirrors.next passed fun following again alike => ?_
    rw [← alike.kind, ← like.any, ← similar.value passed.noText]
    split
    case isTrue colon =>
      have kind : following.kind = .colon := by simp at colon; exact colon.2
      split
      · exact Mirrors.refuse
      · refine Mirrors.advance passed (Mirrors.advance (by rw [kind]; decide) ?_)
        refine (each _ _).bind fun value other alike => ?_
        exact (Mirrors.pure ⟨like.positional, like.named.snoc _ alike⟩).atLeast (by omega)
    case isFalse => exact positional one two
  · refine Mirrors.nextAny fun following again => ?_
    simp only [not_or] at word
    simp only [word, decide_false, Bool.or_false, Bool.false_and, Bool.false_eq_true, if_false]
    exact positional one two

section

variable {nested : Parser Expr} (faithful : Faithful nested Expr.Like)

include faithful

theorem itemsRest_mirrors (turns again : Nat) {items others : List Expr}
    (like : Expr.AllLike items others) : Mirrors [] turns again 0 (itemsRest nested turns items)
      (itemsRest nested again others) Expr.AllLike := by
  refine Mirrors.loop (fun turns again ih items others like => ?_) turns again _ _ like
  rw [itemsRest, itemsRest]
  refine (faithful _ _).bind fun item other alike => ?_
  have more := like.snoc alike
  refine Mirrors.accept (by decide) (Mirrors.pure more) ?_
  refine Mirrors.expect (by decide) fun _ _ _ _ => ?_
  exact ih _ _ more

theorem listItems_mirrors : Faithful (listItems nested) Expr.AllLike := by
  intro bound limit
  rw [listItems]
  refine Mirrors.accept (by decide) (Mirrors.pure rfl) ?_
  exact Mirrors.turns fun turns again => itemsRest_mirrors faithful turns again rfl

theorem primary_mirrors (bound limit : Nat) :
    Mirrors [] bound limit 1 (primary nested) (primary nested) Expr.Like := by
  rw [primary]
  refine Mirrors.current fun one two similar => ?_
  rw [← similar.kind]
  cases kind : one.kind with
  | number =>
      refine Mirrors.advance (by rw [kind]; decide) ?_
      refine (numeral_mirrors (similar.value (by simp [kind]))).bind fun number _ same => ?_
      subst same
      exact Mirrors.position fun _ _ => Mirrors.pure rfl
  | string | boolean =>
      refine Mirrors.advance (by rw [kind]; decide) (Mirrors.position fun _ _ => ?_)
      rw [similar.value (by simp [kind])]
      exact Mirrors.pure rfl
  | null =>
      refine Mirrors.advance (by rw [kind]; decide) (Mirrors.position fun _ _ => ?_)
      exact Mirrors.pure rfl
  | leftBracket =>
      refine Mirrors.advance (by rw [kind]; decide) ?_
      refine (listItems_mirrors faithful _ _).bind fun items others like => ?_
      refine Mirrors.position fun _ _ => Mirrors.pure ?_
      simp only [Expr.Like, Expr.unplaced, Expr.unplacedAll_eq_map, like.eq]
  | leftParen =>
      refine Mirrors.advance (by rw [kind]; decide) ?_
      refine (faithful _ _).bind fun inside other like => ?_
      exact Mirrors.expect (by decide) fun _ _ _ _ => Mirrors.pure like
  | identifier => exact reference_mirrors (by rw [kind]; decide) similar
  | _ => exact Mirrors.unexpected

theorem bareArguments_mirrors (turns again : Nat) {before others : Arguments}
    (like : before.Like others) : Mirrors [] turns again 0 (bareArguments (primary nested) turns before)
      (bareArguments (primary nested) again others) Arguments.Like := by
  refine Mirrors.loop (fun turns again ih before others like => ?_) turns again _ _ like
  rw [bareArguments, bareArguments]
  refine Mirrors.current fun one two similar => ?_
  rw [← similar.kind]
  split
  · refine (argument_mirrors (primary_mirrors faithful) like).anywhere.bind fun _ _ more => ?_
    exact ih _ _ more
  · exact Mirrors.pure like

theorem argumentsRest_mirrors (turns again : Nat) {before others : Arguments}
    (like : before.Like others) : Mirrors [] turns again 0 (argumentsRest nested turns before)
      (argumentsRest nested again others) Arguments.Like := by
  refine Mirrors.loop (fun turns again ih before others like => ?_) turns again _ _ like
  rw [argumentsRest, argumentsRest]
  refine (argument_mirrors faithful like).bind fun arguments _ more => ?_
  refine Mirrors.accept (by decide) (Mirrors.pure more) ?_
  exact Mirrors.expect (by decide) fun _ _ _ _ => ih _ _ more

theorem closedArguments_mirrors : Faithful (closedArguments nested) Arguments.Like := by
  intro bound limit
  rw [closedArguments]
  refine Mirrors.accept (by decide) (Mirrors.pure .none) ?_
  exact Mirrors.turns fun turns again => argumentsRest_mirrors faithful turns again .none

theorem filtersRest_mirrors (turns again : Nat) {base other : Expr} (like : base.Like other) :
    Mirrors [] turns again 0 (filtersRest nested turns base) (filtersRest nested again other)
      Expr.Like := by
  refine Mirrors.loop (fun turns again ih base other like => ?_) turns again _ _ like
  rw [filtersRest, filtersRest]
  refine Mirrors.accept (by decide) ?_ (Mirrors.pure like)
  refine Mirrors.expect (by decide) fun name called similar kind => ?_
  have applied (arguments others : Arguments) (alike : arguments.Like others) :
      Mirrors [] turns again 0
        (do filtersRest nested turns (.filter base name.value arguments.positional
          arguments.named (← positionOf name)))
        (do filtersRest nested again (.filter other called.value others.positional
          others.named (← positionOf called))) Expr.Like := by
    refine Mirrors.position fun _ _ => ih _ _ ?_
    have positional := alike.positional
    have named := alike.named
    simp only [Expr.AllLike, Expr.NamedLike] at positional named
    simp only [Expr.Like, Expr.unplaced, Expr.unplacedAll_eq_map, Expr.unplacedNamed_eq_map,
      like.eq, positional, named, similar.value (by simp [kind] : name.kind ≠ .text)]
  refine Mirrors.accept (by decide) ?_ ?_
  · refine (closedArguments_mirrors faithful _ _).bind fun arguments others alike => ?_
    exact (applied _ _ alike).within (by omega) (by omega)
  · refine Mirrors.size fun left right => ?_
    have bare := bareArguments_mirrors faithful left right .none
    refine (bare.within (Nat.min_le_right _ _) (Nat.min_le_right _ _)).bind fun _ _ alike => ?_
    exact (applied _ _ alike).within (by omega) (by omega)

theorem filtered_mirrors {unary : Parser Expr} (operand : Faithful unary Expr.Like) :
    Faithful (filtered unary nested) Expr.Like := by
  intro bound limit
  rw [filtered]
  refine (disjunction_mirrors operand bound limit).bind fun base other like => ?_
  exact Mirrors.turns fun turns again => filtersRest_mirrors faithful turns again like

end

theorem signed_mirrors {deeper : Token → Parser Expr} {unsplit : Parser Expr}
    (operand : ∀ one two bound limit,
      Mirrors [] bound limit 0 (deeper one) (deeper two) Expr.Like)
    (faithful : Faithful unsplit Expr.Like) : Faithful (signed deeper unsplit) Expr.Like := by
  intro bound limit
  rw [signed]
  refine Mirrors.current fun one two similar => ?_
  rw [← similar.unaryOperator?]
  cases reads : unaryOperator? one with
  | none => exact (faithful bound limit).anywhere
  | some operator =>
      refine Mirrors.advance (passed_of_unary reads) ?_
      refine (operand one two _ _).bind fun inside other like => Mirrors.position fun _ _ => ?_
      exact Mirrors.pure (by simp only [Expr.Like, Expr.unplaced, like.eq])

theorem wholeAt_mirrors (limit : Int) (depth : Nat) :
    Faithful (wholeAt limit depth) Expr.Like ∧ Faithful (unaryAt limit depth) Expr.Like := by
  have here : Faithful (tooDeepHere limit) Expr.Like :=
    fun _ _ => Mirrors.current fun _ _ _ => Mirrors.refuse
  have unsplit {nested : Parser Expr} (faithful : Faithful nested Expr.Like) :
      Faithful (primary nested) Expr.Like :=
    fun bound limit => (primary_mirrors faithful bound limit).atLeast (Nat.zero_le 1)
  induction depth with
  | zero => exact ⟨here, signed_mirrors (fun _ _ _ _ => Mirrors.refuse) (unsplit here)⟩
  | succ depth ih =>
      have whole := filtered_mirrors ih.1 ih.2
      exact ⟨whole, signed_mirrors (fun _ _ => ih.2) (unsplit whole)⟩

theorem expression_mirrors (limit : Int) : Faithful (expression limit) Expr.Like :=
  (wholeAt_mirrors limit limit.toNat).1

end Grammar

end Templating
