import Templating.Proofs.Canonical.Nesting
import Templating.Proofs.Grammar.Arguments

/-!
Every well-formed expression reads back from its lexemes, given enough levels of nesting. Where they
are too few, the limit cuts reading off.
-/

namespace Templating

namespace Grammar

open Templating.Parser Canonical

variable {refusals : Refusal → Prop} {lexemes : List Lexeme} {next : Lexeme → Prop}
  {result : Expr → Prop}

/-- What no operator splits is what a filter is applied to. -/
theorem disjunction_filtered {limit : Int} {depth : Nat} {lexeme : Lexeme}
    (starts : lexeme.1 ∈ startKinds)
    (accepts : Accepts refusals (primary (wholeAt limit depth)) (lexeme :: lexemes) EndsPath
      result) :
    Accepts refusals (disjunction (unaryAt limit depth)) (lexeme :: lexemes)
      (fun lexeme => lexeme = (.pipe, "|")) result := by
  rw [disjunction_eq]
  apply climb_pass
  · refine (unaryAt_accepts starts accepts).mono ?_ (fun _ holds => holds)
    rintro _ rfl
    exact ⟨by decide, by decide⟩
  · intro level known token same
    have kind : token.kind = .pipe := congrArg Prod.fst same
    exact level_eq_none known (by simp [kind]) (by simp [kind])

theorem wholeAt_filter {limit : Int} {depth : Nat} {lexeme : Lexeme} {name : String}
    {parts : List (List Lexeme)} {base : Expr → Prop} {new : Arguments → Prop}
    (starts : lexeme.1 ∈ startKinds)
    (accepts : Accepts refusals (primary (wholeAt limit depth)) (lexeme :: lexemes) EndsPath base)
    {fits : Expr → Prop}
    (adds : AddsArguments refusals (wholeAt limit depth) parts (Matches fits [] []) new)
    (builds : ∀ value arguments position, base value → new arguments →
      result (.filter value name arguments.positional arguments.named position)) :
    Accepts refusals (wholeAt limit (depth + 1))
      (lexeme :: lexemes ++ (.pipe, "|") :: (.identifier, name) :: argumentsLexemes parts)
      EndsExpression result := by
  rw [wholeAt_succ, filtered]
  refine Accepts.bind (disjunction_filtered starts accepts) ?_ (fun _ _ => rfl)
  intro value holds
  apply Accepts.size
  intro budget turns
  cases budget with
  | zero => simp at turns
  | succ budget =>
      rw [filtersRest]
      apply Accepts.accept (by decide)
      apply Accepts.expect (by decide)
      intro token same
      have spelled : token.value = name := congrArg Prod.snd same
      have done : ∀ arguments, new arguments → Accepts refusals (do
          filtersRest (wholeAt limit depth) budget
            (.filter value token.value arguments.positional arguments.named (← positionOf token)))
          [] EndsExpression result := by
        intro arguments read
        apply Accepts.position
        intro position
        rw [spelled]
        exact filtersRest_stop budget (builds value arguments position holds read)
          (fun _ ends => ends.ne (by decide))
      cases adds with
      | nil =>
          apply Accepts.acceptEnd (fun _ ends => ends.ne (by decide))
          apply Accepts.size
          intro bareBudget _
          rw [← List.append_nil ([] : List Lexeme)]
          refine Accepts.bind (bareArguments_stop bareBudget ⟨rfl, rfl, by simp⟩ ?_) done
            (fun _ ends => ends)
          intro other ends
          simp only [EndsExpression, List.mem_cons, List.not_mem_nil, or_false] at ends
          rcases ends with kind | kind | kind | kind | kind <;> (rw [kind]; rfl)
      | cons first others =>
          have read := closedArguments_accepts EndsExpression (.cons first others)
          apply Accepts.accept (by decide)
          have whole := Accepts.bind read done (fun _ ends => ends)
          rw [List.append_nil] at whole
          exact whole

/-- An expression in parentheses. -/
theorem primary_parentheses {nested : Parser Expr}
    (accepts : Accepts refusals nested lexemes EndsExpression result) :
    Accepts refusals (primary nested) ((.leftParen, "(") :: lexemes ++ [(.rightParen, ")")]) next
      result := by
  rw [primary, List.cons_append]
  apply Accepts.current
  rintro ⟨kind, value, mark⟩ same
  obtain ⟨rfl, rfl⟩ := Prod.mk.inj same
  apply Accepts.advance (by decide)
  intro _ _
  refine Accepts.bind accepts ?_ (fun _ _ => by simp [EndsExpression])
  intro read holds
  apply Accepts.expect (by decide)
  intro _ _
  exact Accepts.pure holds

theorem primary_literal {nested : Parser Expr} {value : Value} (known : value.IsLiteral) :
    Accepts refusals (primary nested) [literalLexeme value] next
      (fun read => read.unplaced = .literal value none) := by
  rw [primary]
  apply Accepts.current
  rintro ⟨kind, text, mark⟩ same
  cases value with
  | null =>
      obtain ⟨rfl, rfl⟩ := Prod.mk.inj same
      apply Accepts.advance (by decide)
      intro _ _
      exact Accepts.position fun _ => Accepts.pure rfl
  | bool value =>
      obtain ⟨rfl, rfl⟩ := Prod.mk.inj same
      apply Accepts.advance (by simp [literalLexeme])
      intro _ _
      apply Accepts.position
      intro _
      apply Accepts.pure
      cases value <;> rfl
  | number value =>
      obtain ⟨rfl, rfl⟩ := Prod.mk.inj same
      apply Accepts.advance (by simp [literalLexeme])
      intro _ _
      have reads : numeral? (value.text .plain) = some value := by
        cases value with
        | int value => exact numeral?_of_isWhole known
        | float value => exact Binary64.Rereads.reads known
      rw [numeral, reads]
      have placed : Accepts refusals (do
          return Expr.literal (.number value)
            (← positionOf ⟨.number, value.text .plain, mark⟩) : Parser Expr) [] next
          (fun read => read.unplaced = .literal (.number value) none) :=
        Accepts.position fun _ => Accepts.pure rfl
      exact placed
  | string value safe =>
      obtain ⟨rfl, rfl⟩ := Prod.mk.inj same
      apply Accepts.advance (by simp [literalLexeme])
      intro _ _
      have plain : safe = false := known
      subst plain
      exact Accepts.position fun _ => Accepts.pure rfl
  | sequence kind items => cases known
  | mapping entries => cases known
  | host object => cases known

theorem length_le_segmentLexemes (path : List Segment) :
    path.length ≤ (path.flatMap segmentLexemes).length := by
  induction path with
  | nil => exact Nat.le_refl _
  | cons segment path ih =>
      have positive : 0 < (segmentLexemes segment).length := by
        cases segment with
        | index position => exact Nat.zero_lt_succ _
        | key name =>
            rw [segmentLexemes]
            split <;> exact Nat.zero_lt_succ _
      rw [List.flatMap_cons, List.length_append, List.length_cons]
      omega

theorem primary_reference {nested : Parser Expr} (name : String) {path : List Segment}
    (known : ∀ segment ∈ path, segment.WellFormed) :
    Accepts refusals (primary nested) ((.identifier, name) :: path.flatMap segmentLexemes) EndsPath
      (fun read => read.unplaced = .reference name path none) := by
  rw [primary]
  apply Accepts.current
  rintro ⟨kind, value, mark⟩ same
  obtain ⟨rfl, rfl⟩ := Prod.mk.inj same
  show Accepts refusals reference _ _ _
  rw [reference]
  apply Accepts.advance (by simp)
  intro token sameToken
  apply Accepts.size
  intro budget turns
  have enough : path.length ≤ budget :=
    Nat.le_of_lt (Nat.lt_of_le_of_lt (length_le_segmentLexemes path) turns)
  rw [← List.append_nil (path.flatMap segmentLexemes)]
  refine Accepts.bind (pathRest_accepts known [] enough) ?_ (fun _ ends => ends)
  rintro _ rfl
  apply Accepts.position
  intro _
  apply Accepts.pure
  have spelled : token.value = value := congrArg Prod.snd sameToken
  simp [Expr.unplaced, spelled]

theorem segmentLexemes_head (segment : Segment) :
    ∃ lexeme others, segmentLexemes segment = lexeme :: others ∧ lexeme.1 ≠ .colon := by
  cases segment with
  | index position => exact ⟨_, _, rfl, by simp⟩
  | key name =>
      rw [segmentLexemes]
      split <;> exact ⟨_, _, rfl, by simp⟩

/-- Behind the name or string that starts an expression no colon can stand. -/
theorem unnamed_lexemes (expr : Expr) : Unnamed (Canonical.lexemes expr) := by
  intro lexeme others same kind last ends
  have notColon : last.1 ≠ .colon := ends.ne (by decide)
  cases expr with
  | literal value position =>
      obtain ⟨rfl, rfl⟩ := List.cons.inj same
      exact notColon
  | reference name path position =>
      obtain ⟨rfl, rfl⟩ := List.cons.inj same
      cases path with
      | nil => exact notColon
      | cons segment path =>
          obtain ⟨first, more, spelled, plain⟩ := segmentLexemes_head segment
          simpa [spelled] using plain
  | list items position =>
      obtain ⟨rfl, _⟩ := List.cons.inj same
      simp at kind
  | binary operator left right position =>
      obtain ⟨rfl, _⟩ := List.cons.inj same
      simp at kind
  | unary operator operand position =>
      obtain ⟨rfl, _⟩ := List.cons.inj same
      simp at kind
  | filter base name arguments named position =>
      rw [Canonical.lexemes] at same
      obtain ⟨rfl, _⟩ := List.cons.inj same
      simp at kind

theorem unnamed_itemLexemes (items : List Expr) : ∀ part ∈ itemLexemes items, Unnamed part := by
  induction items with
  | nil => simp [itemLexemes]
  | cons item items ih => exact List.forall_mem_cons.mpr ⟨unnamed_lexemes item, ih⟩

/-- A part that is read as what no operator splits, with one level less, is read as a whole. -/
theorem readsBack_of_primary {limit : Int} {depth : Nat} {expr : Expr}
    (accepts : ∀ less, CutUnless limit refusals (expr.nesting ≤ less) →
      Accepts refusals (primary (wholeAt limit less)) (Canonical.lexemes expr) EndsPath
        (fun read => read.unplaced = expr.unplaced ∧ expr.nesting ≤ less))
    (cut : CutUnless limit refusals (expr.nesting < depth)) :
    ReadsBack refusals (·.nesting < depth) (wholeAt limit depth) EndsExpression expr
      (Canonical.lexemes expr) := by
  obtain ⟨lexeme, others, spelled, starts⟩ := exists_first expr
  refine ⟨⟨lexeme, others, spelled, starts⟩, ?_⟩
  cases depth with
  | zero => exact wholeAt_zero (cut (Nat.not_lt_zero _))
  | succ depth =>
      have read := accepts depth (cut.mono Nat.le_of_lt_succ)
      rw [spelled] at read ⊢
      exact (wholeAt_accepts starts read).mono (fun _ ends => ends)
        (fun _ holds => ⟨holds.1, Nat.lt_succ_of_le holds.2⟩)

theorem primary_list {nested : Parser Expr} {fits : Expr → Prop} {items : List Expr}
    {parts : List (List Lexeme)}
    (each : List.Forall₂ (ReadsBack refusals fits nested EndsExpression) items parts) :
    Accepts refusals (primary nested)
      ((.leftBracket, "[") :: commaLexemes parts ++ [(.rightBracket, "]")]) next
      (fun read => read.unplaced = .list (items.map Expr.unplaced) none ∧
        ∀ item ∈ items, fits item) := by
  rw [primary, List.cons_append]
  apply Accepts.current
  rintro ⟨kind, value, mark⟩ same
  obtain ⟨rfl, rfl⟩ := Prod.mk.inj same
  apply Accepts.advance (by decide)
  intro _ _
  rw [← List.append_nil (commaLexemes parts ++ _)]
  refine Accepts.bind (listItems_accepts each) ?_ (fun _ stop => stop)
  rintro read ⟨all, fitting⟩
  apply Accepts.position
  intro _
  exact Accepts.pure ⟨by simp [Expr.unplaced, all], fitting⟩

mutual

/-- The lexemes of an expression are read as the expression if there are levels enough for it, and
only then. -/
theorem primary_accepts (limit : Int) : ∀ expr : Expr, expr.WellFormed →
    ∀ depth, CutUnless limit refusals (expr.nesting ≤ depth) →
      Accepts refusals (primary (wholeAt limit depth)) (Canonical.lexemes expr) EndsPath
        (fun read => read.unplaced = expr.unplaced ∧ expr.nesting ≤ depth)
  | .literal value _, known, _, _ =>
    (primary_literal known).mono (fun _ _ => trivial) fun _ same => ⟨same, Nat.zero_le _⟩
  | .reference name path _, known, _, _ =>
    (primary_reference name known.2).mono (fun _ ends => ends) fun _ same => ⟨same, Nat.zero_le _⟩
  | .list items _, known, depth, cut => by
    simpa [Canonical.lexemes, Expr.unplaced, Expr.nesting, Expr.nestingAll_le_iff] using
      primary_list (items_readBack limit items known depth cut)
  | .binary _ _ _ _, _, 0, cut => by
    rw [Canonical.lexemes]
    exact primary_parentheses (wholeAt_zero (cut (Nat.not_succ_le_zero _)))
  | .binary operator left right _, known, depth + 1, cut => by
    have first := primary_accepts limit left known.2.1 depth (cut.mono fun enough =>
      Nat.le_trans (Nat.le_max_left _ _) (Nat.le_of_succ_le_succ enough))
    have second := primary_accepts limit right known.2.2 depth (cut.mono fun enough =>
      Nat.le_trans (Nat.le_max_right _ _) (Nat.le_of_succ_le_succ enough))
    obtain ⟨lexeme, others, spelled, starts⟩ := exists_first left
    obtain ⟨lexemeRight, othersRight, spelledRight, startsRight⟩ := exists_first right
    rw [spelled] at first
    rw [spelledRight] at second
    rw [Canonical.lexemes, spelled, spelledRight]
    apply primary_parentheses
    apply wholeAt_binary known.1 starts startsRight first second
    rintro one other position ⟨sameOne, enough⟩ ⟨sameOther, enoughOther⟩
    exact ⟨by rw [Expr.unplaced, Expr.unplaced, sameOne, sameOther],
      Nat.succ_le_succ (Nat.max_le.mpr ⟨enough, enoughOther⟩)⟩
  | .unary _ _ _, _, 0, cut => by
    rw [Canonical.lexemes]
    exact primary_parentheses (wholeAt_zero (cut (Nat.not_succ_le_zero _)))
  | .unary operator operand _, known, 1, cut => by
    have absent : ¬ operand.nesting + 2 ≤ 1 := by omega
    rw [Canonical.lexemes]
    apply primary_parentheses
    exact wholeAt_unary known.1 (fun _ => Accepts.refuse (cut absent _))
      (fun _ _ (never : False) => never.elim)
  | .unary operator operand _, known, depth + 2, cut => by
    have inner := primary_accepts limit operand known.2 depth
      (cut.mono fun enough => Nat.le_of_succ_le_succ (Nat.le_of_succ_le_succ enough))
    obtain ⟨lexeme, others, spelled, starts⟩ := exists_first operand
    rw [spelled] at inner
    rw [Canonical.lexemes, spelled]
    apply primary_parentheses
    apply wholeAt_unary known.1 (fun _ => unaryAt_accepts starts inner)
    rintro value position ⟨same, enough⟩
    exact ⟨by rw [Expr.unplaced, Expr.unplaced, same],
      Nat.succ_le_succ (Nat.succ_le_succ enough)⟩
  | .filter _ _ _ _ _, _, 0, cut => by
    rw [Canonical.lexemes, List.cons_append, List.cons_append]
    exact primary_parentheses (wholeAt_zero (cut (Nat.not_succ_le_zero _)))
  | .filter base name arguments named _, known, depth + 1, cut => by
    have part := cut.mono fun enough => Nat.max_le.mp (Nat.le_of_succ_le_succ enough)
    have rest := part.mono fun enough => Nat.max_le.mp enough.2
    have head := primary_accepts limit base known.1 depth (part.mono And.left)
    have items := addsArguments_positional
      (items_readBack limit arguments known.2.2.1 depth (rest.mono And.left))
      (unnamed_itemLexemes arguments) []
    have others := addsArguments_named (named_readBack limit named known.2.2.2.1 depth
      (rest.mono And.right)) ([] ++ arguments) [] known.2.2.2.2
    obtain ⟨lexeme, more, spelled, starts⟩ := exists_first base
    rw [spelled] at head
    rw [Canonical.lexemes, spelled, List.cons_append, List.cons_append, List.append_assoc]
    apply primary_parentheses
    apply wholeAt_filter starts head (items.append others)
    rintro value read position ⟨sameValue, enough⟩ sameRead
    refine ⟨?_, Nat.succ_le_succ (Nat.max_le.mpr ⟨enough, Nat.max_le.mpr
      ⟨Expr.nestingAll_le_iff.mpr sameRead.fitting.1,
        Expr.nestingNamed_le_iff.mpr sameRead.fitting.2⟩⟩)⟩
    rw [Expr.unplaced, Expr.unplaced, sameValue]
    simp [sameRead.byPosition, sameRead.byName]

theorem items_readBack (limit : Int) : ∀ items : List Expr, Expr.AllWellFormed items →
    ∀ depth, CutUnless limit refusals (Expr.nestingAll items ≤ depth) →
      List.Forall₂ (ReadsBack refusals (·.nesting < depth) (wholeAt limit depth) EndsExpression)
        items (itemLexemes items)
  | [], _, _, _ => .nil
  | item :: items, known, depth, cut => by
    have part := cut.mono Nat.max_le.mp
    exact .cons (readsBack_of_primary (primary_accepts limit item known.1) (part.mono And.left))
      (items_readBack limit items known.2 depth (part.mono And.right))

theorem named_readBack (limit : Int) : ∀ named : List (String × Expr),
    Expr.NamedWellFormed named →
      ∀ depth, CutUnless limit refusals (Expr.nestingNamed named ≤ depth) →
        List.Forall₂ (fun entry part => ∃ valuePart,
          part = argumentLexeme entry.1 :: (.colon, ":") :: valuePart ∧
            ReadsBack refusals (·.nesting < depth) (wholeAt limit depth) EndsExpression entry.2
              valuePart) named (namedLexemes named)
  | [], _, _, _ => .nil
  | (_, value) :: rest, known, depth, cut => by
    have part := cut.mono Nat.max_le.mp
    exact .cons ⟨_, rfl, readsBack_of_primary (primary_accepts limit value known.2.1)
        (part.mono And.left)⟩
      (named_readBack limit rest known.2.2 depth (part.mono And.right))

end

end Grammar

end Templating
