import Mathlib.Data.List.Forall2
import Templating.Proofs.Grammar.Expression

/-!
Items of lists and arguments of filters read back one by one: each is a whole expression that ends
at a comma or a closing bracket.
-/

namespace Templating

namespace Expr

@[simp] theorem unplacedAll_eq_map (items : List Expr) : unplacedAll items = items.map unplaced := by
  induction items with
  | nil => rfl
  | cons item items ih => rw [unplacedAll, ih, List.map_cons]

@[simp] theorem unplacedNamed_eq_map (named : List (String × Expr)) :
    unplacedNamed named = named.map fun entry => (entry.1, entry.2.unplaced) := by
  induction named with
  | nil => rfl
  | cons entry named ih => rw [unplacedNamed, ih, List.map_cons]

end Expr

namespace Grammar

open Templating.Parser Canonical

variable {refusals : Refusal → Prop} {fits : Expr → Prop}

/-- The parser reads these lexemes as the expression, places aside, if it is one that fits. -/
def ReadsBack (refusals : Refusal → Prop) (fits : Expr → Prop) (parser : Parser Expr)
    (next : Lexeme → Prop) (expr : Expr) (part : List Lexeme) : Prop :=
  (∃ lexeme others, part = lexeme :: others ∧ lexeme.1 ∈ startKinds) ∧
    Accepts refusals parser part next fun read => read.unplaced = expr.unplaced ∧ fits expr

theorem startKinds_ne {lexeme : Lexeme} (starts : lexeme.1 ∈ startKinds) {kind : TokenKind}
    (other : kind ∉ startKinds) : lexeme.1 ≠ kind :=
  fun same => other (same ▸ starts)

variable {nested : Parser Expr} {next : Lexeme → Prop}

theorem itemsRest_accepts (next : Lexeme → Prop) {items : List Expr} {parts : List (List Lexeme)}
    (each : List.Forall₂ (ReadsBack refusals fits nested EndsExpression) items parts)
    (nonempty : items ≠ []) (before : List Expr) {budget : Nat} (enough : items.length ≤ budget) :
    Accepts refusals (itemsRest nested budget before)
      (commaLexemes parts ++ [(.rightBracket, "]")]) next
      fun read => read.map Expr.unplaced = (before ++ items).map Expr.unplaced ∧
        ∀ item ∈ items, fits item := by
  induction each generalizing before budget with
  | nil => exact absurd rfl nonempty
  | @cons item part items parts first others ih =>
      cases budget with
      | zero => simp at enough
      | succ budget =>
          rw [itemsRest]
          cases others with
          | nil =>
              refine Accepts.bind first.2 ?_ (fun _ _ => by simp [EndsExpression])
              rintro value ⟨same, fitting⟩
              apply Accepts.accept (by decide)
              exact Accepts.pure ⟨by simp [same], List.forall_mem_singleton.mpr fitting⟩
          | @cons second otherPart items parts firstOther others =>
              rw [commaLexemes, List.append_assoc]
              refine Accepts.bind first.2 ?_ (fun _ _ => by simp [EndsExpression])
              rintro value ⟨same, fitting⟩
              apply Accepts.acceptOther (by decide)
              apply Accepts.expect (by decide)
              intro _ _
              apply (ih (List.cons_ne_nil _ _) (before ++ [value])
                (Nat.le_of_succ_le_succ enough)).mono (fun _ ends => ends)
              rintro read ⟨all, rest⟩
              exact ⟨by simpa [same] using all, List.forall_mem_cons.mpr ⟨fitting, rest⟩⟩

theorem commaLexemes_cons (lexeme : Lexeme) (others : List Lexeme) (parts : List (List Lexeme)) :
    ∃ rest, commaLexemes ((lexeme :: others) :: parts) = lexeme :: rest := by
  cases parts <;> exact ⟨_, rfl⟩

theorem length_le_commaLexemes {parts : List (List Lexeme)} (nonempty : ∀ part ∈ parts, part ≠ []) :
    parts.length ≤ (commaLexemes parts).length := by
  induction parts with
  | nil => exact Nat.zero_le _
  | cons part parts ih =>
      have first := List.length_pos_iff.mpr (nonempty part List.mem_cons_self)
      have others := ih fun other member => nonempty other (List.mem_cons_of_mem _ member)
      cases parts with
      | nil => simpa [commaLexemes] using Nat.succ_le_of_lt first
      | cons second parts =>
          simp only [commaLexemes, List.length_append, List.length_cons] at others ⊢
          omega

theorem nonempty_of_reads {items : List Expr} {parts : List (List Lexeme)}
    (each : List.Forall₂ (ReadsBack refusals fits nested next) items parts) :
    ∀ part ∈ parts, part ≠ [] := by
  induction each with
  | nil => simp
  | cons first others ih =>
      obtain ⟨⟨lexeme, rest, rfl, _⟩, _⟩ := first
      exact List.forall_mem_cons.mpr ⟨List.cons_ne_nil _ _, ih⟩

theorem listItems_accepts {items : List Expr} {parts : List (List Lexeme)}
    (each : List.Forall₂ (ReadsBack refusals fits nested EndsExpression) items parts) :
    Accepts refusals (listItems nested) (commaLexemes parts ++ [(.rightBracket, "]")]) next
      fun read => read.map Expr.unplaced = items.map Expr.unplaced ∧ ∀ item ∈ items, fits item := by
  cases each with
  | nil =>
      rw [listItems]
      exact Accepts.accept (by decide) (Accepts.pure ⟨rfl, by simp⟩)
  | @cons item part items parts first others =>
      obtain ⟨lexeme, rest, rfl, starts⟩ := first.1
      have whole := length_le_commaLexemes (nonempty_of_reads (.cons first others))
      have sizes := others.length_eq
      obtain ⟨rest', spelled⟩ := commaLexemes_cons lexeme rest parts
      have items := fun (budget : Nat) (enough : (item :: items).length ≤ budget) =>
        itemsRest_accepts next (.cons first others) (List.cons_ne_nil _ _) [] enough
      rw [spelled, List.cons_append] at items
      rw [spelled] at whole
      rw [listItems, spelled, List.cons_append]
      apply Accepts.acceptOther (startKinds_ne starts (by decide))
      apply Accepts.size
      intro budget turns
      apply items
      simp only [List.length_cons, List.length_append, List.length_nil] at turns whole ⊢
      omega

/-- The part cannot be taken for the name of an argument. -/
def Unnamed (part : List Lexeme) : Prop :=
  ∀ lexeme others, part = lexeme :: others → lexeme.1 = .identifier ∨ lexeme.1 = .string →
    ∀ last, EndsExpression last → (others.head?.getD last).1 ≠ .colon

/-- The arguments read so far are these, places aside, and all of them fit. -/
structure Matches (fits : Expr → Prop) (positional : List Expr) (named : List (String × Expr))
    (read : Arguments) : Prop where
  byPosition : read.positional.map Expr.unplaced = positional.map Expr.unplaced
  byName : read.named.map (fun entry => (entry.1, entry.2.unplaced)) =
    named.map fun entry => (entry.1, entry.2.unplaced)
  fitting : (∀ expr ∈ positional, fits expr) ∧ ∀ entry ∈ named, fits entry.2

theorem Matches.names {positional : List Expr} {named : List (String × Expr)} {read : Arguments}
    (same : Matches fits positional named read) : read.named.map (·.1) = named.map (·.1) := by
  have mapped := congrArg (List.map Prod.fst) same.byName
  rw [List.map_map, List.map_map] at mapped
  exact mapped

/-- The part is read as one more argument. -/
def AddsArgument (refusals : Refusal → Prop) (value : Parser Expr) (part : List Lexeme)
    (old new : Arguments → Prop) : Prop :=
  (∃ lexeme others, part = lexeme :: others ∧ lexeme.1 ∈ startKinds) ∧
    ∀ before, old before → Accepts refusals (argument value before) part EndsExpression new

theorem addsArgument_positional {value : Parser Expr} {expr : Expr} {part : List Lexeme}
    (reads : ReadsBack refusals fits value EndsExpression expr part) (unnamed : Unnamed part)
    (positional : List Expr) :
    AddsArgument refusals value part (Matches fits positional [])
      (Matches fits (positional ++ [expr]) []) := by
  refine ⟨reads.1, ?_⟩
  intro before same
  obtain ⟨lexeme, others, rfl, starts⟩ := reads.1
  have noNames : before.named = [] := by simpa using same.byName
  rw [argument]
  apply Accepts.current
  rintro token rfl
  apply Accepts.next (fun lexeme => token.lexeme.1 = .identifier ∨ token.lexeme.1 = .string →
    lexeme.1 ≠ .colon) (fun last ends kind => unnamed _ others rfl kind last ends)
  intro following notColon
  have positionalOnly : ((token.kind = .identifier || token.kind = .string) &&
      following.kind = .colon : Bool) = false := by
    simpa [Token.lexeme] using notColon
  rw [positionalOnly, noNames]
  rw [← List.append_nil (token.lexeme :: others)]
  refine Accepts.bind reads.2 ?_ (fun _ ends => ends)
  rintro read ⟨sameRead, fitting⟩
  exact Accepts.pure
    { byPosition := by simp [same.byPosition, sameRead]
      byName := by simp
      fitting := ⟨List.forall_mem_append.mpr ⟨same.fitting.1, List.forall_mem_singleton.mpr fitting⟩,
        same.fitting.2⟩ }

theorem addsArgument_named {value : Parser Expr} {name : String} {expr : Expr}
    {part : List Lexeme} (reads : ReadsBack refusals fits value EndsExpression expr part)
    (positional : List Expr) {named : List (String × Expr)} (fresh : name ∉ named.map (·.1)) :
    AddsArgument refusals value (argumentLexeme name :: (.colon, ":") :: part)
      (Matches fits positional named) (Matches fits positional (named ++ [(name, expr)])) := by
  have kind : (argumentLexeme name).1 = .identifier ∨ (argumentLexeme name).1 = .string := by
    unfold argumentLexeme
    split
    · exact .inl rfl
    · exact .inr rfl
  refine ⟨⟨_, _, rfl, ?_⟩, ?_⟩
  · rcases kind with same | same <;> simp [same, startKinds]
  · intro before same
    rw [argument]
    apply Accepts.current
    intro token sameToken
    apply Accepts.next (fun lexeme => lexeme.1 = .colon) (fun _ _ => rfl)
    intro following colon
    have isName : ((token.kind = .identifier || token.kind = .string) &&
        following.kind = .colon : Bool) = true := by
      have kindSame : token.kind = (argumentLexeme name).1 := congrArg Prod.fst sameToken
      have colonSame : following.kind = .colon := colon
      rw [kindSame, colonSame]
      simpa using kind
    have spelled : token.value = name := congrArg Prod.snd sameToken
    have absent : before.named.any (·.1 == name) = false := by
      rw [← same.names] at fresh
      apply List.any_eq_false.mpr
      intro entry member
      simp only [beq_iff_eq]
      rintro rfl
      exact fresh (List.mem_map_of_mem member)
    rw [isName, spelled]
    simp only [if_true, absent, Bool.false_eq_true, if_false]
    apply Accepts.advance (by rcases kind with same | same <;> simp [same])
    intro _ _
    apply Accepts.advance (by decide)
    intro _ _
    rw [← List.append_nil part]
    refine Accepts.bind reads.2 ?_ (fun _ ends => ends)
    rintro read ⟨sameRead, fitting⟩
    exact Accepts.pure
      { byPosition := same.byPosition
        byName := by simp [same.byName, sameRead]
        fitting := ⟨same.fitting.1, List.forall_mem_append.mpr
          ⟨same.fitting.2, List.forall_mem_singleton.mpr fitting⟩⟩ }

/-- The parts are read one after the other as more arguments. -/
inductive AddsArguments (refusals : Refusal → Prop) (value : Parser Expr) :
    List (List Lexeme) → (Arguments → Prop) → (Arguments → Prop) → Prop
  | nil (state : Arguments → Prop) : AddsArguments refusals value [] state state
  | cons {part : List Lexeme} {parts : List (List Lexeme)} {old between new : Arguments → Prop} :
      AddsArgument refusals value part old between → AddsArguments refusals value parts between new →
        AddsArguments refusals value (part :: parts) old new

theorem AddsArguments.append {value : Parser Expr} {parts others : List (List Lexeme)}
    {old between new : Arguments → Prop} (first : AddsArguments refusals value parts old between)
    (second : AddsArguments refusals value others between new) :
    AddsArguments refusals value (parts ++ others) old new := by
  induction first with
  | nil state => exact second
  | cons adds more ih => exact .cons adds (ih second)

theorem addsArguments_positional {value : Parser Expr} {items : List Expr}
    {parts : List (List Lexeme)}
    (each : List.Forall₂ (ReadsBack refusals fits value EndsExpression) items parts)
    (unnamed : ∀ part ∈ parts, Unnamed part) (before : List Expr) :
    AddsArguments refusals value parts (Matches fits before [])
      (Matches fits (before ++ items) []) := by
  induction each generalizing before with
  | nil => simpa using AddsArguments.nil (Matches fits before [])
  | @cons item part items parts first others ih =>
      have rest := ih (fun other member => unnamed other (List.mem_cons_of_mem _ member))
        (before ++ [item])
      rw [List.append_assoc, List.singleton_append] at rest
      exact .cons (addsArgument_positional first (unnamed part List.mem_cons_self) before) rest

theorem addsArguments_named {value : Parser Expr} {named : List (String × Expr)}
    {parts : List (List Lexeme)} (each : List.Forall₂ (fun entry part => ∃ valuePart,
      part = argumentLexeme entry.1 :: (.colon, ":") :: valuePart ∧
        ReadsBack refusals fits value EndsExpression entry.2 valuePart) named parts)
    (positional : List Expr) (before : List (String × Expr))
    (distinct : ((before ++ named).map (·.1)).Nodup) :
    AddsArguments refusals value parts (Matches fits positional before)
      (Matches fits positional (before ++ named)) := by
  induction each generalizing before with
  | nil => simpa using AddsArguments.nil (Matches fits positional before)
  | @cons entry part named parts first others ih =>
      obtain ⟨valuePart, rfl, reads⟩ := first
      have fresh : entry.1 ∉ before.map (·.1) := by
        rw [List.map_append, List.map_cons] at distinct
        intro known
        exact (List.nodup_append.mp distinct).2.2 _ known _ List.mem_cons_self rfl
      have rest := ih (before ++ [entry]) (by simpa using distinct)
      rw [List.append_assoc, List.singleton_append] at rest
      exact .cons (addsArgument_named reads positional fresh) rest

theorem AddsArguments.nonempty {value : Parser Expr} {parts : List (List Lexeme)}
    {old new : Arguments → Prop} (adds : AddsArguments refusals value parts old new) :
    ∀ part ∈ parts, part ≠ [] := by
  induction adds with
  | nil state => simp
  | cons first others ih =>
      obtain ⟨⟨lexeme, rest, rfl, _⟩, _⟩ := first
      exact List.forall_mem_cons.mpr ⟨List.cons_ne_nil _ _, ih⟩

variable {value : Parser Expr}

theorem argumentsRest_accepts (next : Lexeme → Prop) {parts : List (List Lexeme)}
    {old new : Arguments → Prop}
    (adds : AddsArguments refusals value parts old new) (some : parts ≠ []) {before : Arguments}
    (holds : old before) {budget : Nat} (enough : parts.length ≤ budget) :
    Accepts refusals (argumentsRest value budget before)
      (commaLexemes parts ++ [(.rightParen, ")")]) next new := by
  induction adds generalizing before budget with
  | nil state => exact absurd rfl some
  | @cons part parts old between new first others ih =>
      cases budget with
      | zero => simp at enough
      | succ budget =>
          have reads := first.2 before holds
          rw [argumentsRest]
          cases parts with
          | nil =>
              cases others
              refine Accepts.bind reads ?_ (fun _ _ => by simp [EndsExpression])
              intro arguments done
              exact Accepts.accept (by decide) (Accepts.pure done)
          | cons second parts =>
              rw [commaLexemes, List.append_assoc]
              refine Accepts.bind reads ?_ (fun _ _ => by simp [EndsExpression])
              intro arguments done
              apply Accepts.acceptOther (by decide)
              apply Accepts.expect (by decide)
              intro _ _
              exact ih (List.cons_ne_nil _ _) done (Nat.le_of_succ_le_succ enough)

theorem closedArguments_accepts (next : Lexeme → Prop) {parts : List (List Lexeme)}
    {new : Arguments → Prop} (adds : AddsArguments refusals value parts (Matches fits [] []) new) :
    Accepts refusals (closedArguments value) (commaLexemes parts ++ [(.rightParen, ")")]) next
      new := by
  have empty : Matches fits [] [] {} := ⟨rfl, rfl, by simp⟩
  have size := length_le_commaLexemes adds.nonempty
  have read := fun some (budget : Nat) (enough : parts.length ≤ budget) =>
    argumentsRest_accepts next adds some empty enough
  rw [closedArguments]
  cases adds with
  | nil => exact Accepts.accept (by decide) (Accepts.pure empty)
  | cons first others =>
      obtain ⟨⟨lexeme, rest, rfl, starts⟩, _⟩ := first
      obtain ⟨rest', spelled⟩ := commaLexemes_cons lexeme rest _
      rw [spelled, List.cons_append] at read ⊢
      rw [spelled] at size
      apply Accepts.acceptOther (startKinds_ne starts (by decide))
      apply Accepts.size
      intro budget turns
      apply read (List.cons_ne_nil _ _)
      simp only [List.length_cons, List.length_append, List.length_nil] at turns size ⊢
      omega

theorem bareArguments_stop (budget : Nat) {before : Arguments} {result : Arguments → Prop}
    (holds : result before) (stops : ∀ lexeme, next lexeme → startsBareArgument lexeme.1 = false) :
    Accepts refusals (bareArguments value budget before) [] next result := by
  cases budget with
  | zero => exact Accepts.pure holds
  | succ budget =>
      rw [bareArguments]
      apply Accepts.currentEnd
      intro token stop
      have kind : startsBareArgument token.kind = false := stops _ stop
      rw [kind]
      exact Accepts.pure holds

end Grammar

end Templating
