import Templating.Proofs.Grammar.Levels

/-!
The lexemes of an expression read back as the expression. What the recursion needs in levels of
nesting is counted along.
-/

namespace Templating.Grammar

open Templating.Parser Canonical

variable {refusals : Refusal → Prop} {lexemes more : List Lexeme} {next : Lexeme → Prop}
  {result : Expr → Prop}

/-- No path goes on. -/
def EndsPath (lexeme : Lexeme) : Prop :=
  lexeme.1 ≠ .dot ∧ lexeme.1 ≠ .leftBracket

/-- The expression ends: a closing delimiter, a comma or a closing bracket. -/
def EndsExpression (lexeme : Lexeme) : Prop :=
  lexeme.1 ∈ [.expressionClose, .blockClose, .comma, .rightParen, .rightBracket]

theorem EndsExpression.ne {lexeme : Lexeme} (ends : EndsExpression lexeme) {kind : TokenKind}
    (other : kind ∉ [.expressionClose, .blockClose, .comma, .rightParen, .rightBracket]) :
    lexeme.1 ≠ kind :=
  fun same => other (same ▸ ends)

theorem EndsExpression.path {lexeme : Lexeme} (ends : EndsExpression lexeme) : EndsPath lexeme :=
  ⟨ends.ne (by decide), ends.ne (by decide)⟩

theorem EndsExpression.levels {token : Token} (ends : EndsExpression token.lexeme) :
    ∀ level ∈ levels, level token = none :=
  fun _ known => level_eq_none known (ends.ne (by decide)) (ends.ne (by decide))

/-- The kinds of lexemes that an expression starts with. -/
def startKinds : List TokenKind :=
  [.number, .string, .boolean, .null, .leftBracket, .leftParen, .identifier]

theorem exists_first (expr : Expr) :
    ∃ lexeme others, Canonical.lexemes expr = lexeme :: others ∧ lexeme.1 ∈ startKinds := by
  cases expr with
  | literal value position =>
      refine ⟨literalLexeme value, [], rfl, ?_⟩
      cases value <;> simp [literalLexeme, startKinds]
  | reference name path position => exact ⟨_, _, rfl, by simp [startKinds]⟩
  | list items position => exact ⟨_, _, rfl, by simp [startKinds]⟩
  | binary operator left right position => exact ⟨_, _, rfl, by simp [startKinds]⟩
  | unary operator operand position => exact ⟨_, _, rfl, by simp [startKinds]⟩
  | filter base name arguments named position =>
      exact ⟨_, _, by rw [Canonical.lexemes]; rfl, by simp [startKinds]⟩

theorem unaryOperator?_eq_none {token : Token} (starts : token.kind ∈ startKinds) :
    unaryOperator? token = none := by
  have noKeyword : token.kind ≠ .keyword := fun same => by
    rw [same] at starts
    revert starts
    decide
  have noOperator : token.kind ≠ .operator := fun same => by
    rw [same] at starts
    revert starts
    decide
  simp [unaryOperator?, Token.isKeyword, Token.isOperator, noKeyword, noOperator]

/-- If the condition does not hold, the limit may cut reading off. -/
def CutUnless (limit : Int) (refusals : Refusal → Prop) (condition : Prop) : Prop :=
  ¬ condition → ∀ token, refusals (.tooDeep limit, token)

theorem CutUnless.mono {limit : Int} {whole part : Prop} (cut : CutUnless limit refusals whole)
    (needs : whole → part) : CutUnless limit refusals part :=
  fun absent => cut fun holds => absent (needs holds)

theorem wholeAt_zero {limit : Int} (cut : ∀ token, refusals (.tooDeep limit, token)) :
    Accepts refusals (wholeAt limit 0) lexemes next result := by
  intro cursor tokens following rest _ _ _ _
  exact .inr ⟨_, by rw [wholeAt]; rfl, cut _⟩

theorem wholeAt_succ (limit : Int) (depth : Nat) :
    (wholeAt limit (depth + 1) : Parser Expr) =
      filtered (unaryAt limit depth) (wholeAt limit depth) := by
  funext cursor
  rw [wholeAt]

/-- What reads the operand behind a sign. -/
def operandAt (limit : Int) : Nat → Token → Parser Expr
  | 0 => tooDeep limit
  | depth + 1 => fun _ => unaryAt limit depth

/-- A sign or what no operator splits, whatever nesting is left. -/
theorem unaryAt_eq (limit : Int) (depth : Nat) :
    (unaryAt limit depth : Parser Expr) =
      signed (operandAt limit depth) (primary (wholeAt limit depth)) := by
  funext cursor
  cases depth with
  | zero =>
      rw [unaryAt]
      rfl
  | succ depth =>
      rw [unaryAt, wholeAt_succ]
      rfl

theorem unaryAt_accepts {limit : Int} {depth : Nat} {lexeme : Lexeme}
    (starts : lexeme.1 ∈ startKinds)
    (accepts : Accepts refusals (primary (wholeAt limit depth)) (lexeme :: lexemes) next result) :
    Accepts refusals (unaryAt limit depth) (lexeme :: lexemes) next result := by
  rw [unaryAt_eq, signed]
  apply Accepts.current
  rintro token rfl
  rw [unaryOperator?_eq_none starts]
  exact accepts

theorem filtersRest_stop {nested : Parser Expr} (budget : Nat) {base : Expr} (holds : result base)
    (noPipe : ∀ lexeme, next lexeme → lexeme.1 ≠ .pipe) :
    Accepts refusals (filtersRest nested budget base) [] next result := by
  cases budget with
  | zero => exact Accepts.pure holds
  | succ budget =>
      rw [filtersRest]
      exact Accepts.acceptEnd noPipe (Accepts.pure holds)

theorem filtered_accepts {unary nested : Parser Expr}
    (accepts : Accepts refusals (disjunction unary) lexemes next result)
    (noPipe : ∀ lexeme, next lexeme → lexeme.1 ≠ .pipe) :
    Accepts refusals (filtered unary nested) lexemes next result := by
  rw [filtered, ← List.append_nil lexemes]
  apply Accepts.bind accepts _ (fun _ stop => stop)
  intro base holds
  exact Accepts.size fun budget _ => filtersRest_stop budget holds noPipe

/-- What no operator splits is a whole expression where the expression ends. -/
theorem wholeAt_accepts {limit : Int} {depth : Nat} {lexeme : Lexeme}
    (starts : lexeme.1 ∈ startKinds)
    (accepts : Accepts refusals (primary (wholeAt limit depth)) (lexeme :: lexemes) EndsPath
      result) :
    Accepts refusals (wholeAt limit (depth + 1)) (lexeme :: lexemes) EndsExpression result := by
  rw [wholeAt_succ]
  apply filtered_accepts _ (fun _ ends => ends.ne (by decide))
  rw [disjunction_eq]
  apply climb_pass _ (fun level known token ends => ends.levels level known)
  exact (unaryAt_accepts starts accepts).mono (fun _ ends => ends.path) (fun _ holds => holds)

/-- An operator between two operands is a whole expression where the expression ends. -/
theorem wholeAt_binary {limit : Int} {depth : Nat} {first second : Lexeme}
    {operator : BinaryOperator} {left right : Expr → Prop}
    (known : operator ∈ BinaryOperator.known) (starts : first.1 ∈ startKinds)
    (startsRight : second.1 ∈ startKinds)
    (acceptsLeft : Accepts refusals (primary (wholeAt limit depth)) (first :: lexemes) EndsPath left)
    (acceptsRight : Accepts refusals (primary (wholeAt limit depth)) (second :: more) EndsPath right)
    (builds : ∀ one other position, left one → right other →
      result (.binary operator one other position)) :
    Accepts refusals (wholeAt limit (depth + 1))
      (first :: lexemes ++ operatorLexeme operator :: second :: more) EndsExpression result := by
  obtain ⟨outer, level, inner, split, reads, others⟩ := exists_level operator known
  have inLevels : ∀ member ∈ level :: inner, member ∈ levels := by
    intro member listed
    rw [split]
    exact List.mem_append_right outer listed
  have kind : (operatorLexeme operator).1 = .operator ∨ (operatorLexeme operator).1 = .keyword := by
    cases operator <;> simp [operatorLexeme]
  have noPath : EndsPath (operatorLexeme operator) := by
    rcases kind with same | same <;> (rw [EndsPath, same]; decide)
  rw [wholeAt_succ]
  apply filtered_accepts _ (fun _ ends => ends.ne (by decide))
  rw [disjunction_eq, split, List.foldr_append, List.foldr_cons]
  apply climb_pass _ (fun member listed token ends => ends.levels member
    (by rw [split]; exact List.mem_append_left _ listed))
  have innerLeft : Accepts refusals (inner.foldr binaryLevel (unaryAt limit depth))
      (first :: lexemes) (fun lexeme => lexeme = operatorLexeme operator) left := by
    apply climb_pass
    · exact (unaryAt_accepts starts acceptsLeft).mono (fun _ same => same ▸ noPath)
        (fun _ holds => holds)
    · intro other member token same
      rw [← others other member]
      exact level_eq_of_lexeme (inLevels other (List.mem_cons_of_mem _ member)) same
  have innerRight : Accepts refusals (inner.foldr binaryLevel (unaryAt limit depth)) (second :: more)
      EndsExpression right := by
    apply climb_pass
    · exact (unaryAt_accepts startsRight acceptsRight).mono (fun _ ends => ends.path)
        (fun _ holds => holds)
    · intro other member token ends
      exact ends.levels other (inLevels other (List.mem_cons_of_mem _ member))
  refine binaryLevel_take ?_ innerLeft innerRight rfl ?_ ?_ builds
  · rcases kind with same | same <;> (rw [same]; decide)
  · intro token same
    rw [← reads]
    exact level_eq_of_lexeme (inLevels level List.mem_cons_self) same
  · intro token ends
    exact ends.levels level (inLevels level List.mem_cons_self)

/-- A sign before an operand is a whole expression where the expression ends. -/
theorem wholeAt_unary {limit : Int} {depth : Nat} {operator : UnaryOperator}
    {operand : Expr → Prop} (known : operator = .not ∨ operator = .negate)
    (accepts : ∀ token, Accepts refusals (operandAt limit depth token) lexemes EndsPath operand)
    (builds : ∀ value position, operand value → result (.unary operator value position)) :
    Accepts refusals (wholeAt limit (depth + 1)) (signLexeme operator :: lexemes) EndsExpression
      result := by
  have reads : ∀ token : Token, token.lexeme = signLexeme operator →
      unaryOperator? token = some operator := by
    rintro ⟨kind, value, mark⟩ same
    rcases known with rfl | rfl <;> (obtain ⟨rfl, rfl⟩ := Prod.mk.inj same; rfl)
  have inside : (signLexeme operator).1 ≠ .endOfInput := by
    rcases known with rfl | rfl <;> decide
  rw [wholeAt_succ]
  apply filtered_accepts _ (fun _ ends => ends.ne (by decide))
  rw [disjunction_eq]
  apply climb_pass _ (fun level known token ends => ends.levels level known)
  rw [unaryAt_eq, signed]
  apply Accepts.current
  intro token same
  rw [reads token same]
  apply Accepts.advance inside
  intro _ _
  rw [← List.append_nil lexemes]
  apply Accepts.bind (accepts token) _ (fun _ ends => ends.path)
  intro value holds
  exact Accepts.position fun position => Accepts.pure (builds value position holds)

theorem numeral?_of_isWhole {value : Int} (whole : IsWhole value) :
    numeral? (toString value) = some (.int value) := by
  obtain ⟨size, rfl, text⟩ := Numeral.exists_toDigits whole.1
  have short : size < 10 ^ Numeral.greatestWholeLength := whole.2
  rw [text, Numeral.numeral?_toDigits short]

theorem isWholeNumeral_of_isWhole {value : Int} (whole : IsWhole value) (mark : Mark) :
    isWholeNumeral ⟨.number, toString value, mark⟩ = true := by
  obtain ⟨size, rfl, text⟩ := Numeral.exists_toDigits whole.1
  have all : ∀ c ∈ Nat.toDigits 10 size, Text.isDigit c = true := by
    intro c member
    have digit := Text.isDecimal_of_isDigit (Numeral.isDigit_of_mem_toDigits member)
    simp [Text.isDigit, digit]
  simp only [isWholeNumeral, text, String.toList_ofList, Bool.and_eq_true]
  simpa [Nat.toDigits_ne_nil] using all

/-- What stands between the brackets of a segment. -/
def bracketLexeme : Segment → Lexeme
  | .index position => (.number, toString position)
  | .key name => (.string, name)

theorem bracketLexeme_inside (segment : Segment) :
    (bracketLexeme segment).1 ≠ .endOfInput := by
  cases segment <;> simp [bracketLexeme]

theorem bracketed_peek {segment : Segment} (known : segment.WellFormed) (cursor : Cursor)
    (token : Token) (rest : List Token) (same : token.lexeme = bracketLexeme segment) :
    bracketed (cursor.before (token :: rest)) = .ok (segment, cursor.before (token :: rest)) := by
  obtain ⟨kind, value, mark⟩ := token
  cases segment with
  | index position =>
      obtain ⟨rfl, rfl⟩ := Prod.mk.inj same
      have digits := isWholeNumeral_of_isWhole known mark
      have reads := numeral?_of_isWhole known
      generalize toString position = shown at *
      simp [bracketed, digits, numeral, reads]
  | key name =>
      obtain ⟨rfl, rfl⟩ := Prod.mk.inj same
      simp [bracketed, isWholeNumeral]

theorem pathRest_accepts {path : List Segment} (known : ∀ segment ∈ path, segment.WellFormed)
    (before : List Segment) {budget : Nat} (enough : path.length ≤ budget) :
    Accepts refusals (pathRest budget before) (path.flatMap segmentLexemes) EndsPath
      (· = before ++ path) := by
  induction path generalizing before budget with
  | nil =>
      cases budget with
      | zero => exact Accepts.pure (by simp)
      | succ budget =>
          rw [pathRest]
          exact Accepts.acceptEnd (fun _ ends => ends.1)
            (Accepts.acceptEnd (fun _ ends => ends.2) (Accepts.pure (by simp)))
  | cons segment path ih =>
      cases budget with
      | zero => simp at enough
      | succ budget =>
          have others := fun before => ih
            (fun other member => known other (List.mem_cons_of_mem _ member)) before
            (Nat.le_of_succ_le_succ enough)
          have first := known segment List.mem_cons_self
          have quoted : Accepts refusals (pathRest (budget + 1) before)
              ((.leftBracket, "[") :: bracketLexeme segment :: (.rightBracket, "]") ::
                path.flatMap segmentLexemes) EndsPath (· = before ++ segment :: path) := by
            rw [pathRest]
            apply Accepts.acceptOther (by decide)
            apply Accepts.accept (by decide)
            apply Accepts.peek (bracketed_peek first)
            apply Accepts.advance (bracketLexeme_inside segment)
            intro _ _
            apply Accepts.expect (by decide)
            intro _ _
            exact (others (before ++ [segment])).mono (fun _ ends => ends)
              (fun _ same => by simpa using same)
          cases segment with
          | index position => exact quoted
          | key name =>
              simp only [List.flatMap_cons, segmentLexemes]
              split
              · rw [pathRest]
                apply Accepts.accept (by decide)
                apply Accepts.expect (by decide)
                intro token same
                have spelled : token.value = name := congrArg Prod.snd same
                rw [spelled]
                exact (others (before ++ [.key name])).mono (fun _ ends => ends)
                  (fun _ same => by simpa using same)
              · exact quoted

end Templating.Grammar
