import Templating.Proofs.Grammar.Arguments
import Templating.Proofs.Grammar.Applications

/-!
The same words elsewhere: what tokens spell does not depend on their places, so any tokens of the
same kinds and texts spell the same expression, places aside. Other tokens may stand behind them, as
long as a variable that ended there still ends.
-/

namespace Templating.Derivation

open Grammar

/-- Where a variable ends before the first tokens, one ends before the second ones. -/
def Ends (rest behind : List Token) : Prop :=
  ahead rest ≠ .dot → ahead rest ≠ .leftBracket →
    ahead behind ≠ .dot ∧ ahead behind ≠ .leftBracket

theorem kind_eq {token other : Token} (same : token.lexeme = other.lexeme) :
    token.kind = other.kind :=
  congrArg Prod.fst same

theorem value_eq {token other : Token} (same : token.lexeme = other.lexeme) :
    token.value = other.value :=
  congrArg Prod.snd same

theorem Ends.of_ahead {rest behind : List Token} (same : ahead behind = ahead rest) :
    Ends rest behind := by
  intro noDot noBracket
  rw [same]
  exact ⟨noDot, noBracket⟩

theorem Ends.of_lexeme {token other : Token} {rest behind : List Token}
    (same : other.lexeme = token.lexeme) : Ends (token :: rest) (other :: behind) :=
  .of_ahead (kind_eq same)

theorem Ends.append {passed others rest behind : List Token}
    (same : others.map Token.lexeme = passed.map Token.lexeme) (ends : Ends rest behind) :
    Ends (passed ++ rest) (others ++ behind) := by
  cases passed with
  | nil =>
      rw [List.map_eq_nil_iff.mp same]
      exact ends
  | cons token passed =>
      obtain ⟨other, others, rfl, first, _⟩ := List.map_eq_cons_iff.mp same
      exact .of_lexeme first

variable {α β : Type} {template : String} {tokens rest : List Token}

/-- Any tokens of these kinds and texts spell such a value, where what stands behind them lets
them. -/
def Spells (derives : Derivation α) (lexemes : List Lexeme) (next : List Token → Prop)
    (result : α → Prop) : Prop :=
  ∀ ⦃tokens behind : List Token⦄, tokens.map Token.lexeme = lexemes → next behind →
    ∃ value, derives (tokens ++ behind) behind value ∧ result value

theorem Spells.mono {derives : Derivation α} {lexemes : List Lexeme}
    {next narrower : List Token → Prop} {result wider : α → Prop}
    (spells : Spells derives lexemes next result) (only : ∀ behind, narrower behind → next behind)
    (also : ∀ value, result value → wider value) : Spells derives lexemes narrower wider := by
  intro tokens behind same stops
  obtain ⟨value, derived, holds⟩ := spells same (only behind stops)
  exact ⟨value, derived, also value holds⟩

/-- One token is spelled wherever it is derived, whatever stands behind it. -/
theorem Spells.token {derives : Derivation α} {lexeme : Lexeme} {next : List Token → Prop}
    {result : α → Prop} (derived : ∀ token : Token, token.lexeme = lexeme →
      ∀ behind, ∃ value, derives (token :: behind) behind value ∧ result value) :
    Spells derives [lexeme] next result := by
  intro tokens behind spelled _
  obtain ⟨token, rfl, same⟩ := List.map_eq_singleton_iff.mp spelled
  exact derived token same behind

/-- Wherever the tokens of a derivation stand, before anything that a variable can end before, they
spell the same value, up to what the key leaves out. -/
def Portable (key : α → β) (derives : Derivation α) : Prop :=
  ∀ ⦃tokens rest value⦄, derives tokens rest value → ∃ passed, tokens = passed ++ rest ∧
    Spells derives (passed.map Token.lexeme) (Ends rest) fun again => key again = key value

theorem Portable.nothing {key : α → β} : Portable key nothing :=
  fun _ _ _ never => never.elim

theorem Index.respelled {token other : Token} {segment : Segment} (index : Index token segment)
    (same : other.lexeme = token.lexeme) : Index other segment := by
  have kind := kind_eq same
  have text := value_eq same
  cases index with
  | position digits converts =>
      refine .position ?_ (text ▸ converts)
      rw [isWholeNumeral, kind, text]
      exact digits
  | key quoted => exact text ▸ .key (kind.trans quoted)

theorem Path.spells {path : List Segment} (steps : Path tokens rest path) :
    ∃ passed, tokens = passed ++ rest ∧
      Spells Path (passed.map Token.lexeme) (fun _ => True) (· = path) := by
  induction steps with
  | done =>
      refine ⟨[], rfl, fun others behind spelled _ => ?_⟩
      cases List.map_eq_nil_iff.mp spelled
      exact ⟨[], .done, rfl⟩
  | @dotted dot name _ _ _ separates named _ ih =>
      obtain ⟨passed, rfl, spells⟩ := ih
      refine ⟨dot :: name :: passed, rfl, fun others behind spelled _ => ?_⟩
      obtain ⟨mark, _, rfl, sameDot, second⟩ := List.map_eq_cons_iff.mp spelled
      obtain ⟨word, others, rfl, sameName, sameRest⟩ := List.map_eq_cons_iff.mp second
      obtain ⟨_, further, rfl⟩ := spells sameRest trivial
      exact ⟨_, .dotted ((kind_eq sameDot).trans separates) ((kind_eq sameName).trans named)
        further, by rw [value_eq sameName]⟩
  | @bracketed opening index closing _ _ _ _ opens inside closes _ ih =>
      obtain ⟨passed, rfl, spells⟩ := ih
      refine ⟨opening :: index :: closing :: passed, rfl, fun others behind spelled _ => ?_⟩
      obtain ⟨left, _, rfl, sameOpening, second⟩ := List.map_eq_cons_iff.mp spelled
      obtain ⟨inner, _, rfl, sameIndex, third⟩ := List.map_eq_cons_iff.mp second
      obtain ⟨right, others, rfl, sameClosing, sameRest⟩ := List.map_eq_cons_iff.mp third
      obtain ⟨_, further, rfl⟩ := spells sameRest trivial
      exact ⟨_, .bracketed ((kind_eq sameOpening).trans opens) (inside.respelled sameIndex)
        ((kind_eq sameClosing).trans closes) further, rfl⟩

section

variable {item : Derivation α} {key : α → β} {closing : TokenKind}

theorem Closed.spells_last {lexemes : List Lexeme} {value : α} (close : Token)
    (spells : Spells item lexemes (fun behind => ahead behind = close.kind)
      fun again => key again = key value) (closes : close.kind = closing) :
    Spells (Closed closing item) (lexemes ++ [close.lexeme]) (fun _ => True)
      fun again => again.map key = [key value] := by
  intro others behind spelled _
  obtain ⟨before, _, rfl, same, last⟩ := List.map_eq_append_iff.mp spelled
  obtain ⟨mark, rfl, sameClose⟩ := List.map_eq_singleton_iff.mp last
  have ends : ahead (mark :: behind) = close.kind := kind_eq sameClose
  obtain ⟨again, derived, alike⟩ := spells same ends
  rw [← List.append_cons]
  exact ⟨_, .last derived ((kind_eq sameClose).trans closes), by simp [alike]⟩

theorem Closed.spells_more {lexemes more : List Lexeme} {value : α} {values : List α}
    (comma : Token) (spells : Spells item lexemes (fun behind => ahead behind = comma.kind)
      fun again => key again = key value) (separates : comma.kind = .comma)
    (further : Spells (Closed closing item) more (fun _ => True)
      fun again => again.map key = values.map key) :
    Spells (Closed closing item) (lexemes ++ comma.lexeme :: more) (fun _ => True)
      fun again => again.map key = (value :: values).map key := by
  intro others behind spelled _
  obtain ⟨before, _, rfl, same, behindFirst⟩ := List.map_eq_append_iff.mp spelled
  obtain ⟨mark, after, rfl, sameComma, sameMore⟩ := List.map_eq_cons_iff.mp behindFirst
  have ends : ahead (mark :: (after ++ behind)) = comma.kind := kind_eq sameComma
  obtain ⟨again, derived, alike⟩ := spells same ends
  obtain ⟨others, closed, allAlike⟩ := @further after behind sameMore trivial
  rw [List.append_assoc]
  exact ⟨_, .more derived ((kind_eq sameComma).trans separates) closed, by simp [alike, allAlike]⟩

/-- Whatever stands behind the bracket that closes them. -/
theorem Closed.spells (portable : Portable key item) {values : List α}
    (closed : Closed closing item tokens rest values) :
    ∃ passed, tokens = passed ++ rest ∧
      Spells (Closed closing item) (passed.map Token.lexeme) (fun _ => True)
        fun again => again.map key = values.map key := by
  induction closed with
  | @last _ rest close _ first closes =>
      obtain ⟨passed, rfl, spells⟩ := portable first
      refine ⟨passed ++ [close], List.append_cons _ _ _, ?_⟩
      rw [List.map_append]
      exact Closed.spells_last close (spells.mono (fun _ same => .of_ahead same) fun _ => id) closes
  | @more _ _ _ comma _ _ first separates _ ih =>
      obtain ⟨passed, rfl, spells⟩ := portable first
      obtain ⟨passedMore, rfl, further⟩ := ih
      refine ⟨passed ++ comma :: passedMore, by simp, ?_⟩
      rw [List.map_append]
      exact Closed.spells_more comma (spells.mono (fun _ same => .of_ahead same) fun _ => id)
        separates further

theorem Bracketed.spells (portable : Portable key item) {values : List α}
    (bracketed : Bracketed closing item tokens rest values) :
    ∃ passed, tokens = passed ++ rest ∧
      Spells (Bracketed closing item) (passed.map Token.lexeme) (fun _ => True)
        fun again => again.map key = values.map key := by
  cases bracketed with
  | @empty close rest closes =>
      refine ⟨[close], rfl, Spells.token fun other same behind => ?_⟩
      exact ⟨[], .empty ((kind_eq same).trans closes), rfl⟩
  | items closed =>
      obtain ⟨passed, rfl, spells⟩ := closed.spells portable
      refine ⟨passed, rfl, fun others behind spelled _ => ?_⟩
      obtain ⟨again, derived, alike⟩ := spells spelled trivial
      exact ⟨again, .items derived, alike⟩

/-- Wherever the tokens of a turn stand, they make the same of what is alike. -/
def PortableTurn (key : α → β) (turn : α → Derivation α) : Prop :=
  ∀ ⦃value tokens rest longer⦄, turn value tokens rest longer → ∃ passed, tokens = passed ++ rest ∧
    ∀ start, key start = key value →
      Spells (turn start) (passed.map Token.lexeme) (Ends rest) fun again => key again = key longer

theorem Chain.portable {turn : α → Derivation α} (portable : Portable key item)
    (turns : PortableTurn key turn) : Portable key (Chain item turn) := by
  intro tokens rest value chain
  induction chain with
  | start derives =>
      obtain ⟨passed, rfl, spells⟩ := portable derives
      refine ⟨passed, rfl, fun others behind spelled ends => ?_⟩
      obtain ⟨again, derived, alike⟩ := spells spelled ends
      exact ⟨again, .start derived, alike⟩
  | further _ goesOn ih =>
      obtain ⟨passedTurn, rfl, spellsTurn⟩ := turns goesOn
      obtain ⟨passed, rfl, spells⟩ := ih
      refine ⟨passed ++ passedTurn, (List.append_assoc _ _ _).symm,
        fun others behind spelled ends => ?_⟩
      rw [List.map_append] at spelled
      obtain ⟨before, _, rfl, same, sameTurn⟩ := List.map_eq_append_iff.mp spelled
      obtain ⟨start, chain, alike⟩ := spells same (ends.append sameTurn)
      obtain ⟨longer, turned, alike⟩ := spellsTurn start alike sameTurn ends
      rw [List.append_assoc]
      exact ⟨longer, chain.further turned, alike⟩

end

section

variable {nested : Derivation Expr} {value : Expr}

/-- What no operator splits is spelled anywhere. Only a variable minds what stands behind it. -/
theorem Primary.spells (portable : Portable Expr.unplaced nested)
    (derived : Primary template nested tokens rest value) :
    ∃ passed, tokens = passed ++ rest ∧
      Spells (Primary template nested) (passed.map Token.lexeme)
        (fun behind => ahead tokens = .identifier → Ends rest behind)
        fun again => again.unplaced = value.unplaced := by
  cases derived with
  | @number token _ number kind converts =>
      refine ⟨[token], rfl, Spells.token fun other same behind => ?_⟩
      exact ⟨_, .number ((kind_eq same).trans kind) (value_eq same ▸ converts), rfl⟩
  | @string token _ kind =>
      refine ⟨[token], rfl, Spells.token fun other same behind => ?_⟩
      exact ⟨_, .string ((kind_eq same).trans kind), by rw [value_eq same]; rfl⟩
  | @boolean token _ kind =>
      refine ⟨[token], rfl, Spells.token fun other same behind => ?_⟩
      exact ⟨_, .boolean ((kind_eq same).trans kind), by rw [value_eq same]; rfl⟩
  | @null token _ kind =>
      refine ⟨[token], rfl, Spells.token fun other same behind => ?_⟩
      exact ⟨_, .null ((kind_eq same).trans kind), rfl⟩
  | @list token _ _ items kind bracketed =>
      obtain ⟨passed, rfl, spells⟩ := bracketed.spells portable
      refine ⟨token :: passed, rfl, fun others behind spelled _ => ?_⟩
      obtain ⟨other, others, rfl, same, sameRest⟩ := List.map_eq_cons_iff.mp spelled
      obtain ⟨again, derived, alike⟩ := spells sameRest trivial
      exact ⟨_, .list ((kind_eq same).trans kind) derived, by simp [Expr.unplaced, alike]⟩
  | @group token close _ _ _ kind inside closes =>
      obtain ⟨passed, rfl, spells⟩ := portable inside
      refine ⟨token :: passed ++ [close], by simp, fun others behind spelled _ => ?_⟩
      rw [List.map_append, List.map_cons] at spelled
      obtain ⟨other, _, rfl, sameToken, inner⟩ := List.map_eq_cons_iff.mp spelled
      obtain ⟨before, _, rfl, same, last⟩ := List.map_eq_append_iff.mp inner
      obtain ⟨mark, rfl, sameClose⟩ := List.map_eq_singleton_iff.mp last
      obtain ⟨again, derived, alike⟩ := spells same (.of_lexeme sameClose)
      refine ⟨again, ?_, alike⟩
      rw [List.cons_append, ← List.append_cons]
      exact .group ((kind_eq sameToken).trans kind) derived ((kind_eq sameClose).trans closes)
  | @reference token _ _ path kind steps noDot noBracket =>
      obtain ⟨passed, rfl, spells⟩ := steps.spells
      refine ⟨token :: passed, rfl, fun others behind spelled ends => ?_⟩
      obtain ⟨other, others, rfl, same, sameRest⟩ := List.map_eq_cons_iff.mp spelled
      obtain ⟨_, further, rfl⟩ := spells sameRest trivial
      obtain ⟨stopsDot, stopsBracket⟩ := ends kind noDot noBracket
      exact ⟨_, .reference ((kind_eq same).trans kind) further stopsDot stopsBracket,
        by rw [value_eq same]; rfl⟩

theorem LeftAssociative.portable {level : Level} (known : level ∈ levels)
    (portable : Portable Expr.unplaced nested) :
    Portable Expr.unplaced (LeftAssociative template level nested) := by
  refine Chain.portable portable fun left tokens rest longer derived => ?_
  cases derived with
  | @right token _ _ operator right reads derives =>
      obtain ⟨passed, rfl, spells⟩ := portable derives
      refine ⟨token :: passed, rfl, fun start alike others behind spelled ends => ?_⟩
      obtain ⟨other, others, rfl, same, sameRest⟩ := List.map_eq_cons_iff.mp spelled
      obtain ⟨again, derived, alikeRight⟩ := spells sameRest ends
      exact ⟨_, .right ((level_eq_of_lexeme known same).trans reads) derived,
        by simp [Expr.unplaced, alike, alikeRight]⟩

theorem foldr_portable (portable : Portable Expr.unplaced nested) {part : List Level}
    (known : part ⊆ levels) :
    Portable Expr.unplaced (part.foldr (LeftAssociative template) nested) := by
  induction part with
  | nil => exact portable
  | cons level part ih =>
      obtain ⟨first, others⟩ := List.cons_subset.mp known
      exact LeftAssociative.portable first (ih others)

theorem Disjunction.portable (portable : Portable Expr.unplaced nested) :
    Portable Expr.unplaced (Disjunction template nested) :=
  foldr_portable portable (List.Subset.refl levels)

theorem Signed.portable {operand : Derivation Expr} (signs : Portable Expr.unplaced operand)
    (portable : Portable Expr.unplaced nested) :
    Portable Expr.unplaced (Signed template operand nested) := by
  intro tokens rest value derived
  cases derived with
  | plain derives =>
      obtain ⟨passed, rfl, spells⟩ := portable derives
      refine ⟨passed, rfl, fun others behind spelled ends => ?_⟩
      obtain ⟨again, derived, alike⟩ := spells spelled ends
      exact ⟨again, .plain derived, alike⟩
  | @sign token _ _ operator value reads derives =>
      obtain ⟨passed, rfl, spells⟩ := signs derives
      refine ⟨token :: passed, rfl, fun others behind spelled ends => ?_⟩
      obtain ⟨⟨kind, text, mark⟩, others, rfl, same, sameRest⟩ := List.map_eq_cons_iff.mp spelled
      obtain ⟨again, derived, alike⟩ := spells sameRest ends
      obtain ⟨rfl, rfl⟩ := Prod.mk.inj same
      exact ⟨_, .sign reads derived, by simp [Expr.unplaced, alike]⟩

end

/-- The argument without its places. -/
def unplacedArgument (argument : Option String × Expr) : Option String × Expr :=
  (argument.1, argument.2.unplaced)

section

variable {derives : Derivation Expr} {value : Expr} {lexemes : List Lexeme}
  {next : List Token → Prop}

theorem Argument.spells_positional
    (spells : Spells derives lexemes next fun again => again.unplaced = value.unplaced) :
    Spells (Argument derives) lexemes next
      fun again => unplacedArgument again = unplacedArgument (none, value) := by
  intro others behind spelled stops
  obtain ⟨again, derived, alike⟩ := spells spelled stops
  exact ⟨_, .positional derived, by simp [unplacedArgument, alike]⟩

theorem Argument.spells_named {name colon : Token}
    (word : name.kind = .identifier ∨ name.kind = .string) (separates : colon.kind = .colon)
    (spells : Spells derives lexemes next fun again => again.unplaced = value.unplaced) :
    Spells (Argument derives) (name.lexeme :: colon.lexeme :: lexemes) next
      fun again => unplacedArgument again = unplacedArgument (some name.value, value) := by
  intro others behind spelled stops
  obtain ⟨first, _, rfl, sameName, behindName⟩ := List.map_eq_cons_iff.mp spelled
  obtain ⟨second, others, rfl, sameColon, sameRest⟩ := List.map_eq_cons_iff.mp behindName
  obtain ⟨again, derived, alike⟩ := spells sameRest stops
  have kind := kind_eq sameName
  refine ⟨_, .named (kind ▸ word) ((kind_eq sameColon).trans separates) derived, ?_⟩
  simp [unplacedArgument, alike, value_eq sameName]

theorem Argument.portable (portable : Portable Expr.unplaced derives) :
    Portable unplacedArgument (Argument derives) := by
  intro tokens rest argument derived
  cases derived with
  | positional derives =>
      obtain ⟨passed, rfl, spells⟩ := portable derives
      exact ⟨passed, rfl, Argument.spells_positional spells⟩
  | @named name colon _ _ _ word separates derives =>
      obtain ⟨passed, rfl, spells⟩ := portable derives
      exact ⟨name :: colon :: passed, rfl, Argument.spells_named word separates spells⟩

/-- One more argument, where those that follow let it end. -/
theorem Bare.spells_more {between : List Token → Prop} {lexeme : Lexeme}
    {more : List Lexeme} {argument : Option String × Expr}
    {arguments : List (Option String × Expr)} (starts : startsBareArgument lexeme.1)
    (first : Spells (Argument derives) (lexeme :: lexemes) between
      fun again => unplacedArgument again = unplacedArgument argument)
    (further : Spells (Bare derives) more next
      fun again => again.map unplacedArgument = arguments.map unplacedArgument)
    (link : ∀ tokens behind, tokens.map Token.lexeme = more → next behind →
      between (tokens ++ behind)) :
    Spells (Bare derives) (lexeme :: lexemes ++ more) next
      fun again => again.map unplacedArgument = (argument :: arguments).map unplacedArgument := by
  intro others behind spelled stops
  obtain ⟨before, after, rfl, same, sameMore⟩ := List.map_eq_append_iff.mp spelled
  obtain ⟨again, derived, alike⟩ := first same (link after behind sameMore stops)
  obtain ⟨others, bare, allAlike⟩ := further sameMore stops
  obtain ⟨token, before, rfl, sameToken, _⟩ := List.map_eq_cons_iff.mp same
  rw [List.append_assoc]
  refine ⟨_, .more ?_ derived bare, by simp [alike, allAlike]⟩
  have kind : ahead (token :: before ++ (after ++ behind)) = lexeme.1 := congrArg Prod.fst sameToken
  rw [kind]
  exact starts

theorem Bare.portable (advances : Advances derives) (portable : Portable Expr.unplaced derives) :
    Portable (List.map unplacedArgument) (Bare derives) := by
  intro tokens rest arguments bare
  induction bare with
  | done =>
      refine ⟨[], rfl, fun others behind spelled _ => ?_⟩
      cases List.map_eq_nil_iff.mp spelled
      exact ⟨[], .done, rfl⟩
  | more starts first _ ih =>
      have shorter := (Argument.advances advances).shorter first
      obtain ⟨passed, rfl, spells⟩ := Argument.portable portable first
      obtain ⟨passedMore, rfl, further⟩ := ih
      refine ⟨passed ++ passedMore, (List.append_assoc _ _ _).symm, ?_⟩
      rw [List.map_append]
      cases passed with
      | nil => exact absurd shorter (Nat.lt_irrefl _)
      | cons token passed =>
          exact Bare.spells_more starts spells further fun _ _ same ends => ends.append same

end

/-- These arguments are the same, places aside. -/
structure Alike (first second : Arguments) : Prop where
  positional : first.positional.map Expr.unplaced = second.positional.map Expr.unplaced
  named : (first.named.map fun entry => (entry.1, entry.2.unplaced)) =
    second.named.map fun entry => (entry.1, entry.2.unplaced)

section

variable {first second : Arguments}

theorem Alike.names (alike : Alike first second) :
    first.named.map (·.1) = second.named.map (·.1) := by
  have names := congrArg (List.map Prod.fst) alike.named
  rwa [List.map_map, List.map_map] at names

theorem Alike.further (alike : Alike first second) {one other : Option String × Expr}
    (same : unplacedArgument one = unplacedArgument other) :
    Alike (add first one) (add second other) := by
  obtain ⟨name, value⟩ := one
  obtain ⟨otherName, otherValue⟩ := other
  obtain ⟨rfl, values⟩ := Prod.mk.inj same
  cases name with
  | none => exact ⟨by simp [add, alike.positional, values], alike.named⟩
  | some name => exact ⟨alike.positional, by simp [add, alike.named, values]⟩

theorem Alike.fits (alike : Alike first second) {name : Option String} (fits : Fits second name) :
    Fits first name := by
  have names := alike.names
  cases name with
  | none =>
      have none : second.named = [] := fits
      rw [none] at names
      exact List.map_eq_nil_iff.mp names
  | some name => exact fun member => fits (names ▸ member)

theorem Alike.allFit {written again : List (Option String × Expr)} (alike : Alike first second)
    (same : again.map unplacedArgument = written.map unplacedArgument)
    (fit : AllFit second written) :
    AllFit first again ∧ Alike (again.foldl add first) (written.foldl add second) := by
  induction written generalizing again first second with
  | nil =>
      cases List.map_eq_nil_iff.mp same
      exact ⟨trivial, alike⟩
  | cons one more ih =>
      obtain ⟨other, others, rfl, sameOne, sameMore⟩ := List.map_eq_cons_iff.mp same
      obtain ⟨rest, whole⟩ := ih (alike.further sameOne) sameMore fit.2
      have names : other.1 = one.1 := (Prod.mk.inj sameOne).1
      exact ⟨⟨names ▸ alike.fits fit.1, rest⟩, whole⟩

end

/-- Arguments that are written the same are the same, places aside. -/
theorem Arranged.respelled {written again : List (Option String × Expr)} {arguments : Arguments}
    (arranged : Arranged written arguments)
    (same : again.map unplacedArgument = written.map unplacedArgument) :
    ∃ others, Arranged again others ∧ Alike others arguments := by
  have all : AllFit {} written ∧ written.foldl add {} = arguments := allFit_of_arranged arranged
  obtain ⟨fit, rfl⟩ := all
  have none : Alike {} {} := ⟨rfl, rfl⟩
  obtain ⟨fitAgain, alike⟩ := none.allFit same fit
  exact ⟨_, arranged_of_allFit fitAgain List.nodup_nil, alike⟩

section

variable {derives : Derivation Expr} {base start : Expr} {arguments : Arguments}
  {written : List (Option String × Expr)} {lexemes : List Lexeme} {next : List Token → Prop}

theorem Alike.filter {others : Arguments} (alike : Alike others arguments)
    (same : start.unplaced = base.unplaced) (name : String) (place other : Option Position) :
    (Expr.filter start name others.positional others.named place).unplaced =
      (Expr.filter base name arguments.positional arguments.named other).unplaced := by
  simp [Expr.unplaced, same, alike.positional, alike.named]

/-- A filter is spelled with the arguments in parentheses. -/
theorem Application.spells_closed {bar name opening : Token} (same : start.unplaced = base.unplaced)
    (pipe : bar.kind = .pipe) (named : name.kind = .identifier) (opens : opening.kind = .leftParen)
    (spells : Spells (Bracketed .rightParen (Argument derives)) lexemes next
      fun again => again.map unplacedArgument = written.map unplacedArgument)
    (arranged : Arranged written arguments) (place : Option Position) :
    Spells (Application template derives start)
      (bar.lexeme :: name.lexeme :: opening.lexeme :: lexemes) next fun again => again.unplaced =
        (Expr.filter base name.value arguments.positional arguments.named place).unplaced := by
  intro others behind spelled stops
  obtain ⟨first, _, rfl, sameBar, behindBar⟩ := List.map_eq_cons_iff.mp spelled
  obtain ⟨second, _, rfl, sameName, behindName⟩ := List.map_eq_cons_iff.mp behindBar
  obtain ⟨third, others, rfl, sameOpening, sameRest⟩ := List.map_eq_cons_iff.mp behindName
  obtain ⟨again, derived, alike⟩ := spells sameRest stops
  obtain ⟨others, arrangedAgain, alike⟩ := arranged.respelled alike
  refine ⟨_, .closed ((kind_eq sameBar).trans pipe) ((kind_eq sameName).trans named)
    ((kind_eq sameOpening).trans opens) derived arrangedAgain, ?_⟩
  rw [value_eq sameName]
  exact alike.filter same _ _ _

/-- A filter is spelled with the arguments behind its name. -/
theorem Application.spells_bare {bar name : Token} (same : start.unplaced = base.unplaced)
    (pipe : bar.kind = .pipe) (named : name.kind = .identifier)
    (spells : Spells (Bare (Primary template derives)) lexemes next
      fun again => again.map unplacedArgument = written.map unplacedArgument)
    (arranged : Arranged written arguments) (place : Option Position) :
    Spells (Application template derives start) (bar.lexeme :: name.lexeme :: lexemes) next
      fun again => again.unplaced =
        (Expr.filter base name.value arguments.positional arguments.named place).unplaced := by
  intro others behind spelled stops
  obtain ⟨first, _, rfl, sameBar, behindBar⟩ := List.map_eq_cons_iff.mp spelled
  obtain ⟨second, others, rfl, sameName, sameRest⟩ := List.map_eq_cons_iff.mp behindBar
  obtain ⟨again, derived, alike⟩ := spells sameRest stops
  obtain ⟨others, arrangedAgain, alike⟩ := arranged.respelled alike
  refine ⟨_, .bare ((kind_eq sameBar).trans pipe) ((kind_eq sameName).trans named) derived
    arrangedAgain, ?_⟩
  rw [value_eq sameName]
  exact alike.filter same _ _ _

theorem Primary.portable (portable : Portable Expr.unplaced derives) :
    Portable Expr.unplaced (Primary template derives) := by
  intro tokens rest value derived
  obtain ⟨passed, rfl, spells⟩ := derived.spells portable
  exact ⟨passed, rfl, spells.mono (fun _ ends _ => ends) fun _ => id⟩

theorem Filtered.portable {unary : Derivation Expr} (signs : Portable Expr.unplaced unary)
    (advances : Advances derives) (portable : Portable Expr.unplaced derives) :
    Portable Expr.unplaced (Filtered template unary derives) := by
  refine Chain.portable (Disjunction.portable signs) fun base tokens rest longer derived => ?_
  cases derived with
  | @closed bar name opening _ _ written arguments pipe named opens derives arranged =>
      obtain ⟨passed, rfl, spells⟩ := derives.spells (Argument.portable portable)
      refine ⟨bar :: name :: opening :: passed, rfl, fun start same => ?_⟩
      exact Application.spells_closed same pipe named opens
        (spells.mono (fun _ _ => trivial) fun _ => id) arranged _
  | @bare bar name _ _ written arguments pipe named derives arranged =>
      have primary : Advances (Primary template _) := (Primary.regular advances).advances
      obtain ⟨passed, rfl, spells⟩ := Bare.portable primary (Primary.portable portable) derives
      exact ⟨bar :: name :: passed, rfl,
        fun start same => Application.spells_bare same pipe named spells arranged _⟩

end

/-- Whole expressions and operands are spelled the same wherever their tokens stand. -/
theorem whole_portable (template : String) (depth : Nat) :
    Portable Expr.unplaced (Whole template depth) ∧
      Portable Expr.unplaced (Unary template depth) := by
  induction depth with
  | zero => exact ⟨.nothing, Signed.portable .nothing (Primary.portable .nothing)⟩
  | succ depth ih =>
      have advances := (whole_regular template depth).1.advances
      have whole : Portable Expr.unplaced (Whole template (depth + 1)) :=
        Filtered.portable ih.2 advances ih.1
      exact ⟨whole, Signed.portable ih.2 (Primary.portable whole)⟩

end Templating.Derivation
