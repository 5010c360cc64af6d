import Templating.Proofs.Grammar.ReadBack

/-!
A reserved word is no name: where a key, a filter or the name of an argument has to stand, it is
refused.
-/

namespace Templating.Grammar

open Templating.Parser Canonical

variable {α β : Type} {lexemes more : List Lexeme} {next between : Lexeme → Prop} {names : List String}

/-- From these lexemes the parser gives nothing. -/
abbrev Refuses (parser : Parser α) (lexemes : List Lexeme) (next : Lexeme → Prop) : Prop :=
  Accepts (fun _ => True) parser lexemes next fun _ => False

namespace Refuses

theorem bind {parser : Parser α} {onwards : α → Parser β} (refuses : Refuses parser lexemes between)
    (link : ∀ lexeme, next lexeme → between (more.head?.getD lexeme)) :
    Refuses (parser >>= onwards) (lexemes ++ more) next :=
  Accepts.bind refuses (fun _ never => never.elim) link

theorem first {parser : Parser α} {onwards : α → Parser β} (refuses : Refuses parser lexemes next) :
    Refuses (parser >>= onwards) lexemes next := by
  rw [← List.append_nil lexemes]
  exact bind refuses fun _ stop => stop

theorem expect {kind : TokenKind} {what : String} {onwards : Token → Parser β} {lexeme : Lexeme}
    (other : lexeme.1 ≠ kind) :
    Refuses (Parser.expect kind what >>= onwards) (lexeme :: lexemes) next := by
  intro cursor tokens following rest same _ _ _
  obtain ⟨mark, others, rfl, _⟩ := exists_token same
  rw [List.cons_append, bind_apply, expect_apply, Cursor.current_before_cons, if_neg other]
  exact .inr ⟨_, rfl, trivial⟩

end Refuses

theorem pathRest_refuses {lexeme : Lexeme} (other : lexeme.1 ≠ .identifier) {budget : Nat}
    (some : 0 < budget) (path : List Segment) :
    Refuses (pathRest budget path) [(.dot, "."), lexeme] next := by
  obtain ⟨budget, rfl⟩ := Nat.exists_eq_add_of_le' some
  rw [pathRest]
  exact Accepts.accept (by decide) (Refuses.expect other)

/-- Behind a dot only a name can stand. -/
theorem primary_refuses {nested : Parser Expr} {name : String} {lexeme : Lexeme}
    (other : lexeme.1 ≠ .identifier) :
    Refuses (primary nested) [(.identifier, name), (.dot, "."), lexeme] next := by
  rw [primary]
  apply Accepts.current
  rintro ⟨kind, value, mark⟩ same
  obtain ⟨rfl, rfl⟩ := Prod.mk.inj same
  show Accepts _ reference _ _ _
  rw [reference]
  apply Accepts.advance (by simp)
  intro _ _
  apply Accepts.size
  intro budget turns
  exact (pathRest_refuses other (Nat.zero_lt_of_lt turns) []).first

/-- Where nothing can be read that no operator splits, no expression can. -/
theorem wholeAt_refuses {limit : Int} {lexeme : Lexeme} (starts : lexeme.1 ∈ startKinds)
    (refuses : ∀ depth, Refuses (primary (wholeAt limit depth)) (lexeme :: lexemes) next)
    (depth : Nat) : Refuses (wholeAt limit depth) (lexeme :: lexemes) next := by
  cases depth with
  | zero => exact wholeAt_zero fun _ => trivial
  | succ depth =>
      rw [wholeAt_succ, filtered]
      apply Refuses.first
      rw [disjunction_eq]
      induction levels with
      | nil => exact unaryAt_accepts starts (refuses depth)
      | cons level others ih => exact Refuses.first ih

/-- The kinds of reserved words. -/
def reservedKinds : List TokenKind :=
  [.boolean, .null, .keyword]

/-- No operand starts with a colon. -/
theorem unaryAt_colon (limit : Int) (depth : Nat) :
    Refuses (unaryAt limit depth) [] fun lexeme => lexeme.1 = .colon := by
  rw [unaryAt_eq, signed]
  apply Accepts.currentEnd
  rintro ⟨kind, value, mark⟩ colon
  obtain rfl : kind = .colon := colon
  show Accepts _ (primary _) _ _ _
  rw [primary]
  apply Accepts.currentEnd
  rintro ⟨kind, value, mark⟩ colon
  obtain rfl : kind = .colon := colon
  exact Accepts.refuse trivial

theorem operandAt_colon (limit : Int) (depth : Nat) (token : Token) :
    Refuses (operandAt limit depth token) [] fun lexeme => lexeme.1 = .colon := by
  cases depth with
  | zero => exact Accepts.refuse trivial
  | succ depth => exact unaryAt_colon limit depth

theorem unaryAt_reserved {limit : Int} {kind : TokenKind} (reserved : kind ∈ reservedKinds)
    (word : String) (depth : Nat) :
    Accepts (fun _ => True) (unaryAt limit depth) [(kind, word)] (fun lexeme => lexeme.1 = .colon)
      fun _ => True := by
  rw [unaryAt_eq, signed]
  apply Accepts.current
  intro token same
  split
  case h_1 =>
    rw [primary]
    apply Accepts.current
    rintro ⟨kind, word, mark⟩ same
    obtain ⟨rfl, rfl⟩ := Prod.mk.inj same
    simp only [reservedKinds, List.mem_cons, List.not_mem_nil, or_false] at reserved
    rcases reserved with rfl | rfl | rfl
    · exact Accepts.advance (by simp) fun _ _ => Accepts.position fun _ => Accepts.pure trivial
    · exact Accepts.advance (by simp) fun _ _ => Accepts.position fun _ => Accepts.pure trivial
    · exact Accepts.refuse trivial
  case h_2 =>
    apply Accepts.advance (by rintro rfl; revert reserved; decide)
    intro token _
    exact (operandAt_colon limit depth _).first.mono (fun _ colon => colon) fun _ => False.elim

/-- Before a colon a reserved word is a value, if it is anything. -/
theorem wholeAt_reserved {limit : Int} {kind : TokenKind} (reserved : kind ∈ reservedKinds)
    (word : String) (depth : Nat) :
    Accepts (fun _ => True) (wholeAt limit depth) [(kind, word)] (fun lexeme => lexeme.1 = .colon)
      fun _ => True := by
  cases depth with
  | zero => exact wholeAt_zero fun _ => trivial
  | succ depth =>
      rw [wholeAt_succ]
      apply filtered_accepts _ (fun _ colon => by simp [colon])
      rw [disjunction_eq]
      refine climb_pass (unaryAt_reserved reserved word depth) fun level known token colon => ?_
      have kind : token.kind = .colon := colon
      exact level_eq_none known (by simp [kind]) (by simp [kind])

/-- As the name of an argument it would be a value, behind which no colon can stand. -/
theorem closedArguments_refuses {limit : Int} {depth : Nat} {kind : TokenKind}
    (reserved : kind ∈ reservedKinds) (word : String) :
    Refuses (closedArguments (wholeAt limit depth)) ((kind, word) :: (.colon, ":") :: more) next := by
  have other : ∀ plain : TokenKind, plain ∉ reservedKinds → kind ≠ plain :=
    fun plain unreserved same => unreserved (same ▸ reserved)
  have added : Accepts (fun _ => True) (argument (wholeAt limit depth) {}) [(kind, word)]
      (fun lexeme => lexeme.1 = .colon) fun _ => True := by
    rw [argument]
    apply Accepts.current
    rintro ⟨kind, word, mark⟩ same
    obtain ⟨rfl, rfl⟩ := Prod.mk.inj same
    apply Accepts.next (fun _ => True) (fun _ _ => trivial)
    intro following _
    have positional : ((kind = .identifier || kind = .string) && following.kind = .colon : Bool) =
        false := by
      simp [other .identifier (by decide), other .string (by decide)]
    simp only [positional]
    rw [← List.append_nil [_]]
    refine Accepts.bind (wholeAt_reserved reserved word depth) ?_ (fun _ colon => colon)
    exact fun _ _ => Accepts.pure trivial
  have further (budget : Nat) : Refuses (argumentsRest (wholeAt limit depth) (budget + 1) {})
      ((kind, word) :: (.colon, ":") :: more) next := by
    rw [argumentsRest, ← List.singleton_append]
    refine Accepts.bind added (fun arguments _ => ?_) (fun _ _ => rfl)
    exact Accepts.acceptOther (by decide) (Refuses.expect (by decide))
  rw [closedArguments]
  apply Accepts.acceptOther (other .rightParen (by decide))
  apply Accepts.size
  intro budget turns
  obtain ⟨budget, rfl⟩ := Nat.exists_eq_add_of_le' (Nat.zero_lt_of_lt turns)
  exact further budget

/-- Behind a name that a filter follows, the rest is refused if no filter can be read there. -/
theorem wholeAt_piped_refuses {limit : Int} (name : String)
    (refuses : ∀ depth budget base, Refuses (filtersRest (wholeAt limit depth) (budget + 1) base)
      ((.pipe, "|") :: more) next) (depth : Nat) :
    Refuses (wholeAt limit depth) ((.identifier, name) :: (.pipe, "|") :: more) next := by
  cases depth with
  | zero => exact wholeAt_zero fun _ => trivial
  | succ depth =>
      have base : Accepts (fun _ => True) (primary (wholeAt limit depth))
          ((.identifier, name) :: ([] : List Segment).flatMap segmentLexemes) EndsPath
          fun read => read.unplaced = .reference name [] none :=
        primary_reference name (List.forall_mem_nil _)
      rw [wholeAt_succ, filtered, ← List.singleton_append]
      refine Accepts.bind (disjunction_filtered (by simp [startKinds]) base) (fun base _ => ?_)
        (fun _ _ => rfl)
      apply Accepts.size
      intro budget turns
      obtain ⟨budget, rfl⟩ := Nat.exists_eq_add_of_le' (Nat.zero_lt_of_lt turns)
      exact refuses depth budget base

theorem wholeAt_filter_refuses {limit : Int} {kind : TokenKind} (reserved : kind ∈ reservedKinds)
    (name filter word : String) (depth : Nat) :
    Refuses (wholeAt limit depth) ((.identifier, name) :: (.pipe, "|") :: (.identifier, filter) ::
      (.leftParen, "(") :: (kind, word) :: (.colon, ":") :: more) next := by
  apply wholeAt_piped_refuses
  intro depth budget base
  rw [filtersRest]
  apply Accepts.accept (by decide)
  apply Accepts.expect (by decide)
  intro _ _
  apply Accepts.accept (by decide)
  exact (closedArguments_refuses reserved word).first

/-- A key behind a dot. -/
theorem expression_refuses_key (limit : Int) (name : String) {lexeme : Lexeme}
    (other : lexeme.1 ≠ .identifier) :
    Refuses (expression limit) [(.identifier, name), (.dot, "."), lexeme] next :=
  wholeAt_refuses (by simp [startKinds]) (fun _ => primary_refuses other) _

/-- The name of a filter behind a pipe. -/
theorem expression_refuses_filter (limit : Int) (name : String) {lexeme : Lexeme}
    (other : lexeme.1 ≠ .identifier) :
    Refuses (expression limit) [(.identifier, name), (.pipe, "|"), lexeme] next := by
  apply wholeAt_piped_refuses
  intro depth budget base
  rw [filtersRest]
  exact Accepts.accept (by decide) (Refuses.expect other)

/-- A named argument of a filter in parentheses. -/
theorem expression_refuses_argument (limit : Int) {kind : TokenKind}
    (reserved : kind ∈ reservedKinds) (name filter word : String) :
    Refuses (expression limit) ((.leftParen, "(") :: (.identifier, name) :: (.pipe, "|") ::
      (.identifier, filter) :: (.leftParen, "(") :: (kind, word) :: (.colon, ":") :: more) next := by
  apply wholeAt_refuses (by simp [startKinds])
  intro depth
  rw [primary]
  apply Accepts.current
  rintro ⟨kind, value, mark⟩ same
  obtain ⟨rfl, rfl⟩ := Prod.mk.inj same
  apply Accepts.advance (by simp)
  intro _ _
  exact (wholeAt_filter_refuses reserved name filter word depth).first

end Templating.Grammar
