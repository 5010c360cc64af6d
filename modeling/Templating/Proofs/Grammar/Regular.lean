import Templating.Proofs.Grammar.Derivation
import Templating.Proofs.Grammar.Expression

/-!
What all derivations of expressions have in common: they spell a token at least, start with one of a
kind to start with, and have no colon behind the first word.
-/

namespace Templating.Derivation

open Grammar

variable {template : String}

section

variable {α : Type}

/-- What is spelled is a token at least. -/
def Advances (derives : Derivation α) : Prop :=
  ∀ ⦃tokens rest value⦄, derives tokens rest value →
    ∃ token between, tokens = token :: between ∧ rest <:+ between

namespace Advances

variable {derives : Derivation α} {tokens rest : List Token} {value : α}

theorem nothing : Advances (nothing : Derivation α) :=
  fun _ _ _ never => never.elim

theorem suffix (advances : Advances derives) (derived : derives tokens rest value) :
    rest <:+ tokens := by
  obtain ⟨token, between, rfl, behind⟩ := advances derived
  exact behind.trans (List.suffix_cons token between)

theorem shorter (advances : Advances derives) (derived : derives tokens rest value) :
    rest.length < tokens.length := by
  obtain ⟨token, between, rfl, behind⟩ := advances derived
  exact Nat.lt_succ_of_le behind.length_le

end Advances

variable {item : Derivation α} {closing : TokenKind}

theorem Closed.advances (advances : Advances item) : Advances (Closed closing item) := by
  intro tokens rest values closed
  induction closed with
  | last first =>
      obtain ⟨token, between, rfl, behind⟩ := advances first
      exact ⟨token, between, rfl, (List.suffix_cons _ _).trans behind⟩
  | more first _ _ ih =>
      obtain ⟨token, between, rfl, behind⟩ := advances first
      obtain ⟨next, after, rfl, further⟩ := ih
      exact ⟨token, between, rfl, (further.trans (List.suffix_cons _ _)).trans
        ((List.suffix_cons _ _).trans behind)⟩

theorem Bracketed.advances (advances : Advances item) : Advances (Bracketed closing item) := by
  intro tokens rest values bracketed
  cases bracketed with
  | empty => exact ⟨_, _, rfl, List.suffix_refl _⟩
  | items closed => exact Closed.advances advances closed

theorem Chain.advances {first : Derivation α} {turn : α → Derivation α}
    (advances : Advances first) (turns : ∀ value, Advances (turn value)) :
    Advances (Chain first turn) := by
  intro tokens rest value chain
  induction chain with
  | start derives => exact advances derives
  | further _ goesOn ih =>
      obtain ⟨token, between, rfl, behind⟩ := ih
      exact ⟨token, between, rfl, ((turns _).suffix goesOn).trans behind⟩

end

theorem Path.suffix {tokens rest : List Token} {path : List Segment}
    (steps : Path tokens rest path) : rest <:+ tokens := by
  induction steps with
  | done => exact List.suffix_refl _
  | dotted _ _ _ ih => exact ih.trans ((List.suffix_cons _ _).trans (List.suffix_cons _ _))
  | bracketed _ _ _ _ ih =>
      exact ih.trans ((List.suffix_cons _ _).trans
        ((List.suffix_cons _ _).trans (List.suffix_cons _ _)))

/-- The kinds of tokens that an expression can start with. -/
def starters : List TokenKind :=
  startKinds ++ [.operator, .keyword]

/-- What is spelled is a token at least, the first of a kind to start with. A word or a string is
not followed by a colon, unless it is all that is spelled. -/
structure Regular (derives : Derivation Expr) : Prop where
  advances : Advances derives
  starts : ∀ ⦃token tokens rest value⦄, derives (token :: tokens) rest value →
    token.kind ∈ starters
  colonless : ∀ ⦃token tokens rest value⦄, derives (token :: tokens) rest value →
    token.kind = .identifier ∨ token.kind = .string → ahead rest ≠ .colon → ahead tokens ≠ .colon

variable {tokens rest : List Token} {token : Token} {value : Expr}

namespace Regular

variable {derives : Derivation Expr}

theorem nothing : Regular nothing where
  advances _ _ _ never := never.elim
  starts _ _ _ _ never := never.elim
  colonless _ _ _ _ never := never.elim

theorem ahead_mem (regular : Regular derives) (derived : derives tokens rest value) :
    ahead tokens ∈ starters := by
  obtain ⟨token, others, rfl, _⟩ := regular.advances derived
  exact regular.starts derived

theorem ahead_ne (regular : Regular derives) (derived : derives tokens rest value)
    {kind : TokenKind} (other : kind ∉ starters) : ahead tokens ≠ kind :=
  fun same => other (same ▸ regular.ahead_mem derived)

end Regular

theorem Path.colonless {path : List Segment} (steps : Path tokens rest path)
    (noColon : ahead rest ≠ .colon) : ahead tokens ≠ .colon := by
  cases steps with
  | done => exact noColon
  | dotted separates => exact fun same => by cases separates.symm.trans same
  | bracketed opens => exact fun same => by cases opens.symm.trans same

section

variable {nested : Derivation Expr}

theorem Primary.startKind (derived : Primary template nested (token :: tokens) rest value) :
    token.kind ∈ startKinds := by
  cases derived with
  | number kind | string kind | boolean kind | null kind | list kind | group kind
  | reference kind =>
      rw [kind]
      decide

theorem Primary.regular (advances : Advances nested) : Regular (Primary template nested) where
  advances tokens rest value derived := by
    cases derived with
    | number | string | boolean | null => exact ⟨_, _, rfl, List.suffix_refl _⟩
    | list _ bracketed => exact ⟨_, _, rfl, (Bracketed.advances advances).suffix bracketed⟩
    | group _ inside => exact ⟨_, _, rfl, (List.suffix_cons _ _).trans (advances.suffix inside)⟩
    | reference _ steps => exact ⟨_, _, rfl, steps.suffix⟩
  starts token tokens rest value derived := List.mem_append_left _ derived.startKind
  colonless token tokens rest value derived word noColon := by
    cases derived with
    | number | string | boolean | null => exact noColon
    | list kind | group kind =>
        rw [kind] at word
        simp at word
    | reference _ steps => exact steps.colonless noColon

end

theorem ne_endOfInput (sign : token.kind = .operator ∨ token.kind = .keyword) :
    token.kind ≠ .endOfInput := by
  rcases sign with kind | kind <;> rw [kind] <;> decide

theorem unary_kind {operator : UnaryOperator} (reads : unaryOperator? token = some operator) :
    token.kind = .operator ∨ token.kind = .keyword := by
  by_contra other
  obtain ⟨noOperator, noKeyword⟩ := not_or.mp other
  simp [unaryOperator?, Token.isKeyword, Token.isOperator, noKeyword, noOperator] at reads

theorem Signed.regular {operand unsplit : Derivation Expr} (signs : Advances operand)
    (regular : Regular unsplit) : Regular (Signed template operand unsplit) where
  advances tokens rest value derived := by
    cases derived with
    | plain derives => exact regular.advances derives
    | sign _ derives => exact ⟨_, _, rfl, signs.suffix derives⟩
  starts token tokens rest value derived := by
    cases derived with
    | plain derives => exact regular.starts derives
    | sign reads => rcases unary_kind reads with kind | kind <;> rw [kind] <;> decide
  colonless token tokens rest value derived word noColon := by
    cases derived with
    | plain derives => exact regular.colonless derives word noColon
    | sign reads => rcases unary_kind reads with kind | kind <;> simp [kind] at word

/-- Turns that do not start with a colon keep a chain regular. -/
theorem Chain.regular {first : Derivation Expr} {turn : Expr → Derivation Expr}
    (regular : Regular first) (turns : ∀ value, Advances (turn value))
    (noColon : ∀ ⦃value tokens rest longer⦄, turn value tokens rest longer →
      ahead tokens ≠ .colon) : Regular (Chain first turn) where
  advances := Chain.advances regular.advances turns
  starts token tokens rest value chain := by
    generalize whole : token :: tokens = all at chain
    induction chain with
    | start derives => exact regular.starts (whole ▸ derives)
    | further _ _ ih => exact ih whole
  colonless token tokens rest value chain word := by
    generalize whole : token :: tokens = all at chain
    induction chain with
    | start derives => exact regular.colonless (whole ▸ derives) word
    | further _ goesOn ih => exact fun _ => ih whole (noColon goesOn)

theorem level_kind {level : Level} (known : level ∈ levels) {operator : BinaryOperator}
    (reads : level token = some operator) : token.kind = .operator ∨ token.kind = .keyword := by
  by_contra other
  obtain ⟨noOperator, noKeyword⟩ := not_or.mp other
  rw [level_eq_none known noKeyword noOperator] at reads
  cases reads

theorem LeftAssociative.regular {level : Level} (known : level ∈ levels)
    {operand : Derivation Expr} (regular : Regular operand) :
    Regular (LeftAssociative template level operand) := by
  refine Chain.regular regular (fun left tokens rest value derived => ?_)
    fun left tokens rest value derived => ?_
  · cases derived with
    | right _ derives => exact ⟨_, _, rfl, regular.advances.suffix derives⟩
  · cases derived with
    | right reads =>
        rcases level_kind known reads with kind | kind <;>
          exact fun same => by cases kind.symm.trans same

theorem foldr_regular {operand : Derivation Expr} (regular : Regular operand)
    {part : List Level} (known : part ⊆ levels) :
    Regular (part.foldr (LeftAssociative template) operand) := by
  induction part with
  | nil => exact regular
  | cons level part ih =>
      obtain ⟨first, others⟩ := List.cons_subset.mp known
      exact LeftAssociative.regular first (ih others)

section

variable {nested : Derivation Expr}

theorem Argument.advances (advances : Advances nested) : Advances (Argument nested) := by
  intro tokens rest argument derived
  cases derived with
  | positional derives => exact advances derives
  | named _ _ derives =>
      exact ⟨_, _, rfl, (advances.suffix derives).trans (List.suffix_cons _ _)⟩

theorem Argument.ahead_ne (regular : Regular nested) {argument : Option String × Expr}
    (derived : Argument nested tokens rest argument) {kind : TokenKind} (other : kind ∉ starters) :
    ahead tokens ≠ kind := by
  cases derived with
  | positional derives => exact regular.ahead_ne derives other
  | @named name _ _ _ _ word =>
      have starts : name.kind ∈ starters := by
        rcases word with kind | kind <;> rw [kind] <;> decide
      exact fun same => other (same ▸ starts)

theorem Bare.suffix (advances : Advances nested) {arguments : List (Option String × Expr)}
    (derived : Bare nested tokens rest arguments) : rest <:+ tokens := by
  induction derived with
  | done => exact List.suffix_refl _
  | more _ first _ ih => exact ih.trans ((Argument.advances advances).suffix first)

theorem Application.advances (advances : Advances nested) (base : Expr) :
    Advances (Application template nested base) := by
  intro tokens rest value derived
  cases derived with
  | closed _ _ _ derives =>
      have inside := (Bracketed.advances (Argument.advances advances)).suffix derives
      exact ⟨_, _, rfl, inside.trans ((List.suffix_cons _ _).trans (List.suffix_cons _ _))⟩
  | bare _ _ derives =>
      have inside := Bare.suffix (Primary.regular advances).advances derives
      exact ⟨_, _, rfl, inside.trans (List.suffix_cons _ _)⟩

theorem Application.pipe {base : Expr}
    (derived : Application template nested base tokens rest value) : ahead tokens = .pipe := by
  cases derived with
  | closed pipe | bare pipe => exact pipe

theorem Filtered.regular {unary : Derivation Expr} (regular : Regular unary)
    (advances : Advances nested) : Regular (Filtered template unary nested) :=
  Chain.regular (foldr_regular regular (List.Subset.refl levels)) (Application.advances advances)
    fun _ _ _ _ derived => by rw [derived.pipe]; decide

end

theorem whole_regular (template : String) (depth : Nat) :
    Regular (Whole template depth) ∧ Regular (Unary template depth) := by
  induction depth with
  | zero => exact ⟨.nothing, Signed.regular Regular.nothing.advances (Primary.regular .nothing)⟩
  | succ depth ih =>
      have whole : Regular (Whole template (depth + 1)) := Filtered.regular ih.2 ih.1.advances
      exact ⟨whole, Signed.regular ih.2.advances (Primary.regular whole.advances)⟩

end Templating.Derivation
