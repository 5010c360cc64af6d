import Templating.Proofs.Grammar.Implements
import Templating.Proofs.Grammar.Regular

/-!
Loops that extend a value turn by turn implement chains, and so the levels of binary operators are
read as they are derived: each takes all operators of its own, and none of another level.
-/

namespace Templating.Grammar

open Templating.Parser Templating.Derivation

variable {template : String} {tokens rest : List Token}

/-- A loop that makes a turn wherever one is derived. Behind a turn the next one can begin or the
loop can stop; in both cases what is read in the turn can end there. -/
structure Loops (template : String) (loop : Nat → Expr → Parser Expr)
    (turn : Expr → Derivation Expr) (between stops : List Token → Prop) : Prop where
  finish : ∀ value, loop 0 value = pure value
  finds : ∀ {budget : Nat} {value : Expr} {tokens : List Token} {post : List Token → Expr → Prop},
    post tokens value →
      (∀ rest longer, turn value tokens rest longer →
        Finds template rest (loop budget longer) post) →
      Finds template tokens (loop (budget + 1) value) post
  takes : ∀ {budget : Nat} {value longer result : Expr} {tokens behind rest : List Token},
    turn value tokens behind longer → between behind →
      Takes template behind (loop budget longer) rest result →
      Takes template tokens (loop (budget + 1) value) rest result
  ends : ∀ {rest : List Token}, stops rest →
    between rest ∧ ∀ budget value, Takes template rest (loop budget value) rest value
  begins : ∀ {value longer : Expr} {tokens rest : List Token}, turn value tokens rest longer →
    between tokens
  advances : ∀ value, Advances (turn value)

section

variable {parser : Parser Expr} {loop : Nat → Expr → Parser Expr} {first : Derivation Expr}
  {turn : Expr → Derivation Expr} {between stops : List Token → Prop}
  (implements : Implements template parser first between) (advances : Advances first)
  (loops : Loops template loop turn between stops)

include loops

theorem loop_finds {start : List Token} {value : Expr} (budget : Nat)
    (chain : Chain first turn start tokens value) :
    Finds template tokens (loop budget value) (Chain first turn start) := by
  induction budget generalizing tokens value with
  | zero =>
      rw [loops.finish]
      exact .pure chain
  | succ budget ih => exact loops.finds chain fun rest longer goesOn => ih (chain.further goesOn)

include implements advances

/-- What the loop takes behind a chain, it takes with the chain before it. -/
theorem chain_takes {middle : List Token} {value result : Expr}
    (chain : Chain first turn tokens middle value) (can : between middle)
    (onwards : ∀ budget, middle.length ≤ budget →
      Takes template middle (loop budget value) rest result) :
    Takes template tokens (do let value ← parser; loop (← size) value) rest result := by
  induction chain with
  | start derived =>
      refine (implements.complete derived can).bind (advances.suffix derived) ?_
      exact .size onwards
  | further _ goesOn ih =>
      refine ih (loops.begins goesOn) fun budget enough => ?_
      have shorter := (loops.advances _).shorter goesOn
      obtain ⟨budget, rfl⟩ := Nat.exists_eq_succ_of_ne_zero (by omega : budget ≠ 0)
      exact loops.takes goesOn can (onwards budget (by omega))

theorem chain_implements :
    Implements template (do let value ← parser; loop (← size) value) (Chain first turn) stops where
  sound tokens := by
    refine (implements.sound tokens).bind (fun _ _ derived => advances.suffix derived)
      fun rest value derived => ?_
    exact .size fun budget _ => loop_finds loops budget (.start derived)
  complete tokens rest value chain stop := by
    obtain ⟨can, ends⟩ := loops.ends stop
    exact chain_takes implements advances loops chain can fun budget _ => ends budget value

end

/-- No operator of these levels follows. -/
def Stops (part : List Level) (rest : List Token) : Prop :=
  ∀ token, Shows rest token → ∀ level ∈ part, level token = none

theorem stops_of_kind {part : List Level} (known : part ⊆ levels)
    (noKeyword : ahead rest ≠ .keyword) (noOperator : ahead rest ≠ .operator) : Stops part rest :=
  fun _ shown _ member =>
    level_eq_none (known member) (shown.kind ▸ noKeyword) (shown.kind ▸ noOperator)

/-- No operator belongs to two levels. -/
theorem levels_apart : levels.Pairwise fun outer inner =>
    ∀ token operator, outer token = some operator → inner token = none := by
  simp only [levels, List.pairwise_cons, List.mem_cons, List.not_mem_nil, or_false,
    forall_eq_or_imp, forall_eq, IsEmpty.forall_iff, implies_true, List.Pairwise.nil, and_true]
  and_intros
  all_goals
    intro token operator reads
    simp only [orOperator?, andOperator?, comparisonOperator?, sumOperator?, productOperator?,
      Token.isKeyword, Token.isOperator, Bool.or_eq_true, Bool.and_eq_true, beq_iff_eq] at reads ⊢
    grind

section

variable {operand : Parser Expr} {derives : Derivation Expr}

theorem binaryRest_loops {level : Level} {part : List Level} (known : level ∈ levels)
    (apart : ∀ inner ∈ part, ∀ token operator, level token = some operator → inner token = none)
    (implements : Implements template operand derives (Stops part)) (advances : Advances derives) :
    Loops template (binaryRest level operand) (Operation template level derives) (Stops part)
      (Stops (level :: part)) where
  finish _ := rfl
  finds := by
    intro budget value tokens post holds onwards
    rw [binaryRest]
    refine .current fun token shown => ?_
    cases reads : level token with
    | none => exact .pure holds
    | some operator =>
        have inside : token.kind ≠ .endOfInput := ne_endOfInput (level_kind known reads)
        obtain ⟨others, rfl⟩ := shown.cons inside
        refine .advance inside ?_
        refine (implements.sound others).bind (fun _ _ derived => advances.suffix derived)
          fun rest right derived => ?_
        exact .position (onwards rest _ (.right reads derived))
  takes := by
    intro budget value longer result tokens behind rest goesOn stop onwards
    cases goesOn with
    | @right token _ _ _ _ reads derived =>
        have inside : token.kind ≠ .endOfInput := ne_endOfInput (level_kind known reads)
        rw [binaryRest]
        refine .current fun shown same => ?_
        cases same
        rw [reads]
        refine .advance inside ?_
        refine (implements.complete derived stop).bind (advances.suffix derived) ?_
        exact .position onwards
  ends := by
    intro rest stop
    refine ⟨fun token shown inner member => stop token shown inner (List.mem_cons_of_mem _ member),
      fun budget value => ?_⟩
    cases budget with
    | zero => exact .pure _ _
    | succ budget =>
        rw [binaryRest]
        refine .current fun token shown => ?_
        rw [stop token shown level List.mem_cons_self]
        exact .pure _ _
  begins := by
    intro value longer tokens rest goesOn token shown inner member
    cases goesOn with
    | right reads =>
        cases shown
        exact apart inner member token _ reads
  advances value tokens rest longer goesOn := by
    cases goesOn with
    | right _ derived => exact ⟨_, _, rfl, advances.suffix derived⟩

/-- Levels of operators over an operand are read as derived, where none of their operators
follows. -/
theorem foldr_implements (implements : Implements template operand derives fun _ => True)
    (regular : Regular derives) {part : List Level} (known : part ⊆ levels)
    (apart : part.Pairwise fun outer inner =>
      ∀ token operator, outer token = some operator → inner token = none) :
    Implements template (part.foldr binaryLevel operand)
      (part.foldr (LeftAssociative template) derives) (Stops part) := by
  induction part with
  | nil => exact ⟨implements.sound, fun _ _ _ derived _ => implements.complete derived trivial⟩
  | cons level part ih =>
      obtain ⟨first, others⟩ := List.cons_subset.mp known
      obtain ⟨own, inner⟩ := List.pairwise_cons.mp apart
      have advances : Advances (part.foldr (LeftAssociative template) derives) :=
        (foldr_regular regular others).advances
      exact chain_implements (ih others inner) advances
        (binaryRest_loops first own (ih others inner) advances)

theorem disjunction_implements (implements : Implements template operand derives fun _ => True)
    (regular : Regular derives) :
    Implements template (disjunction operand) (Disjunction template derives) (Stops levels) :=
  foldr_implements implements regular (List.Subset.refl levels) levels_apart

end

end Templating.Grammar
