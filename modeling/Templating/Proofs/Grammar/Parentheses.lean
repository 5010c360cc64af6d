import Templating.Proofs.Grammar.Exact
import Templating.Proofs.Grammar.Respelling

/-!
The arguments of a filter may stand in parentheses or just behind its name. Both are read as the
same filter, whatever can stand behind it.
-/

namespace Templating

namespace Derivation

open Grammar

variable {α : Type} {template : String} {tokens : List Token}

/-- No variable goes on here. -/
def StopsPath (behind : List Token) : Prop :=
  ahead behind ≠ .dot ∧ ahead behind ≠ .leftBracket

theorem Spells.includes {first second : Derivation α} {lexemes : List Lexeme}
    {next : List Token → Prop} {result : α → Prop} (spells : Spells first lexemes next result)
    (includes : Includes first second) : Spells second lexemes next result := by
  intro others behind spelled stops
  obtain ⟨value, derived, holds⟩ := spells spelled stops
  exact ⟨value, includes derived, holds⟩

/-- What all of some tokens spell is spelled the same before other tokens. -/
theorem Portable.spells {derives : Derivation Expr} {value : Expr}
    (portable : Portable Expr.unplaced derives) (derived : derives tokens [] value) :
    Spells derives (tokens.map Token.lexeme) StopsPath
      fun again => again.unplaced = value.unplaced := by
  obtain ⟨passed, rfl, spells⟩ := portable derived
  rw [List.append_nil]
  exact spells.mono (fun _ stops _ _ => stops) fun _ => id

/-- What no operator splits is a whole expression, one level further out. -/
theorem primary_whole (template : String) {depth inner : Nat} (nested : depth = inner + 1) :
    Includes (Primary template (Whole template inner)) (Whole template depth) := by
  subst nested
  intro tokens rest value derived
  have operand : Unary template inner tokens rest value := by
    cases inner with
    | zero => exact .plain derived
    | succ inner => exact .plain derived
  exact .start (.start (.start (.start (.start (.start operand)))))

theorem primary_deeper (template : String) {depth inner : Nat} (nested : depth = inner + 1) :
    Includes (Primary template (Whole template inner)) (Primary template (Whole template depth)) :=
  Primary.includes (whole_includes template (nested ▸ Nat.le_succ inner)).1

end Derivation

namespace Grammar

open Templating.Parser Templating.Derivation Canonical

/-- An argument of a filter as it is written: the token that names it, if one does, and the tokens
of its value. -/
structure WrittenArgument where
  name : Option Token := none
  value : List Token

namespace WrittenArgument

/-- With a colon behind the name. -/
def lexemes (argument : WrittenArgument) : List Lexeme :=
  match argument.name with
  | none => argument.value.map Token.lexeme
  | some name => name.lexeme :: (.colon, ":") :: argument.value.map Token.lexeme

def startsWith (argument : WrittenArgument) (kind : TokenKind) : Prop :=
  argument.lexemes.head?.map (·.1) = some kind

end WrittenArgument

/-- A filter with its arguments behind its name. -/
def bareLexemes (name : String) (arguments : List WrittenArgument) : List Lexeme :=
  (.pipe, "|") :: (.identifier, name) :: arguments.flatMap WrittenArgument.lexemes

/-- A filter with its arguments in parentheses. -/
def closedLexemes (name : String) (arguments : List WrittenArgument) : List Lexeme :=
  (.pipe, "|") :: (.identifier, name) :: (.leftParen, "(") ::
    (commaLexemes (arguments.map WrittenArgument.lexemes) ++ [(.rightParen, ")")])

/-- These tokens alone are read as the value, to the last of them. -/
def ReadsAlone (template : String) (parser : Parser Expr) (tokens : List Token) (value : Expr) :
    Prop :=
  parser (.ofTokens template tokens) = .ok (value, (Cursor.ofTokens template tokens).before [])

/-- The tokens are those of this argument: a word or a string names it, if one does, and its value
is read without splitting it, with a level of nesting left for parentheses around all arguments. A
value without a name is in no parentheses itself. -/
structure WrittenArgument.Reads (limit : Int) (template : String) (depth : Nat)
    (written : WrittenArgument) (argument : Option String × Expr) : Prop where
  word : ∀ name ∈ written.name, name.kind = .identifier ∨ name.kind = .string
  name : argument.1 = written.name.map Token.value
  value : ∃ inner, depth = inner + 1 ∧
    ReadsAlone template (primary (wholeAt limit inner)) written.value argument.2
  bare : written.name = none → ahead written.value ≠ .leftParen

/-- Behind a value that is a variable, which is one that starts with a word, no argument starts with
a bracket, which would be a step of the variable. -/
def Apart (arguments : List WrittenArgument) : Prop :=
  arguments.IsChain fun first second =>
    ahead first.value = .identifier → ¬ second.startsWith .leftBracket

/-- Wherever tokens of these kinds and texts stand before something that a filter can end before, a
whole expression with so many levels of nesting below it is read as far as this filter, places
aside. What is left is to apply the filters behind it; if there is none, it is the expression. -/
def ReadsFilter (limit : Int) (template : String) (depth : Nat) (lexemes : List Lexeme)
    (filter : Expr) : Prop :=
  ∀ ⦃cursor : Cursor⦄ ⦃tokens rest : List Token⦄, tokens.map Token.lexeme = lexemes →
    cursor.Spans template (tokens ++ rest) →
    ahead rest ∈ [.pipe, .rightParen, .rightBracket, .comma, .expressionClose, .blockClose,
      .endOfInput] →
    ∃ read turns, read.unplaced = filter.unplaced ∧ rest.length ≤ turns ∧
      wholeAt limit (depth + 1) (cursor.before (tokens ++ rest)) =
        filtersRest (wholeAt limit depth) turns read (cursor.before rest) ∧
      (ahead rest ≠ .pipe → wholeAt limit (depth + 1) (cursor.before (tokens ++ rest)) =
        .ok (read, cursor.before rest))

variable {limit : Int} {template : String} {depth : Nat} {tokens rest : List Token} {value : Expr}

theorem ReadsAlone.derived {parser : Parser Expr} {derives : Derivation Expr}
    {stops : List Token → Prop} (implements : Implements template parser derives stops)
    (reads : ReadsAlone template parser tokens value) : derives tokens [] value := by
  obtain ⟨rest, same, derived⟩ :=
    implements.sound tokens (Cursor.spans_ofTokens template tokens) reads
  have none : [] = rest := congrArg Cursor.rest same
  exact none ▸ derived

section

variable {written : WrittenArgument} {argument : Option String × Expr}

theorem WrittenArgument.Reads.derived (reads : written.Reads limit template depth argument) :
    ∃ inner, depth = inner + 1 ∧
      Primary template (Whole template inner) written.value [] argument.2 := by
  obtain ⟨inner, rfl, alone⟩ := reads.value
  have whole := (wholeAt_implements limit template inner).1
  have regular := (whole_regular template inner).1
  exact ⟨inner, rfl, alone.derived (primary_implements whole regular)⟩

/-- The argument starts as one without parentheses does. -/
theorem WrittenArgument.Reads.starts (reads : written.Reads limit template depth argument) :
    ∃ lexeme others, written.lexemes = lexeme :: others ∧ startsBareArgument lexeme.1 := by
  obtain ⟨name, tokens⟩ := written
  cases name with
  | some name =>
      refine ⟨_, _, rfl, ?_⟩
      have word : name.lexeme.1 = .identifier ∨ name.lexeme.1 = .string := reads.word name rfl
      rcases word with kind | kind <;> rw [kind] <;> rfl
  | none =>
      obtain ⟨inner, rfl, derived⟩ := reads.derived
      have primary : Regular (Primary template (Whole template inner)) :=
        Primary.regular (whole_regular template inner).1.advances
      obtain ⟨token, others, rfl, _⟩ := primary.advances derived
      refine ⟨_, _, rfl, ?_⟩
      have starts : ∀ kind ∈ startKinds, kind ≠ .leftParen → startsBareArgument kind := by decide
      exact starts _ derived.startKind (reads.bare rfl)

/-- The argument is spelled in every grammar of values that has its value. Only a variable minds
what stands behind it. -/
theorem WrittenArgument.Reads.spells {derives : Derivation Expr}
    (reads : written.Reads limit template depth argument)
    (includes : ∀ inner, depth = inner + 1 →
      Includes (Primary template (Whole template inner)) derives) :
    Spells (Argument derives) written.lexemes
      (fun behind => ahead written.value = .identifier → StopsPath behind)
      fun again => unplacedArgument again = unplacedArgument argument := by
  obtain ⟨inner, nested, derived⟩ := reads.derived
  obtain ⟨passed, same, spells⟩ := derived.spells (whole_portable template inner).1
  rw [List.append_nil] at same
  subst same
  have values : Spells derives (written.value.map Token.lexeme)
      (fun behind => ahead written.value = .identifier → StopsPath behind)
      fun again => again.unplaced = argument.2.unplaced :=
    (spells.mono (fun _ stops named _ _ => stops named) fun _ => id).includes
      (includes inner nested)
  obtain ⟨name, tokens⟩ := written
  obtain ⟨known, expr⟩ := argument
  have named : known = name.map Token.value := reads.name
  subst named
  cases name with
  | none => exact Argument.spells_positional values
  | some name =>
      have colon : (⟨.colon, ":", {}⟩ : Token).kind = .colon := rfl
      exact Argument.spells_named (reads.word name rfl) colon values

end

section

variable {written : List WrittenArgument} {arguments : List (Option String × Expr)}

/-- What stands behind an argument lets it end. -/
theorem stopsPath_behind {first : WrittenArgument}
    (reads : List.Forall₂ (WrittenArgument.Reads limit template depth) written arguments)
    (apart : Apart (first :: written)) {others behind : List Token}
    (spelled : others.map Token.lexeme = written.flatMap WrittenArgument.lexemes)
    (ends : EndsFilter behind) (known : ahead first.value = .identifier) :
    StopsPath (others ++ behind) := by
  cases reads with
  | nil =>
      cases List.map_eq_nil_iff.mp spelled
      exact ⟨ends.ne (by decide), ends.ne (by decide)⟩
  | @cons second _ _ _ readsSecond _ =>
      obtain ⟨lexeme, more, lexemes, starts⟩ := readsSecond.starts
      have noBracket := (List.isChain_cons_cons.mp apart).1 known
      rw [List.flatMap_cons, lexemes] at spelled
      rw [WrittenArgument.startsWith, lexemes] at noBracket
      obtain ⟨token, others, rfl, same, _⟩ := List.map_eq_cons_iff.mp spelled
      have kind : ahead (token :: others ++ behind) = lexeme.1 := congrArg Prod.fst same
      rw [StopsPath, kind]
      refine ⟨fun dot => ?_, fun bracket => noBracket (congrArg some bracket)⟩
      rw [dot] at starts
      cases starts

theorem bare_spells
    (reads : List.Forall₂ (WrittenArgument.Reads limit template depth) written arguments)
    (apart : Apart written) :
    Spells (Bare (Primary template (Whole template depth)))
      (written.flatMap WrittenArgument.lexemes) EndsFilter
      fun again => again.map unplacedArgument = arguments.map unplacedArgument := by
  induction reads with
  | nil =>
      intro others behind spelled _
      cases List.map_eq_nil_iff.mp spelled
      exact ⟨[], .done, rfl⟩
  | @cons first argument written arguments readsFirst reads ih =>
      obtain ⟨lexeme, others, lexemes, starts⟩ := readsFirst.starts
      have spells := readsFirst.spells fun _ => primary_deeper template
      rw [lexemes] at spells
      rw [List.flatMap_cons, lexemes]
      exact Bare.spells_more starts spells (ih apart.tail)
        fun _ _ spelled ends => stopsPath_behind reads apart spelled ends

theorem closed_spells
    (reads : List.Forall₂ (WrittenArgument.Reads limit template depth) written arguments)
    (some : written ≠ []) :
    Spells (Closed .rightParen (Argument (Whole template depth)))
      (commaLexemes (written.map WrittenArgument.lexemes) ++ [(.rightParen, ")")]) (fun _ => True)
      fun again => again.map unplacedArgument = arguments.map unplacedArgument := by
  induction reads with
  | nil => exact absurd rfl some
  | @cons first argument written arguments readsFirst reads ih =>
      have spells := readsFirst.spells fun _ => primary_whole template
      cases reads with
      | nil =>
          refine Closed.spells_last ⟨.rightParen, ")", {}⟩ (spells.mono ?_ fun _ => id) rfl
          rintro behind close -
          rw [StopsPath, close]
          decide
      | cons =>
          rw [List.map_cons, List.map_cons, commaLexemes, List.append_assoc]
          refine Closed.spells_more ⟨.comma, ",", {}⟩ (spells.mono ?_ fun _ => id) rfl
            (ih (List.cons_ne_nil _ _))
          rintro behind comma -
          rw [StopsPath, comma]
          decide

theorem bracketed_spells
    (reads : List.Forall₂ (WrittenArgument.Reads limit template depth) written arguments) :
    Spells (Bracketed .rightParen (Argument (Whole template depth)))
      (commaLexemes (written.map WrittenArgument.lexemes) ++ [(.rightParen, ")")]) (fun _ => True)
      fun again => again.map unplacedArgument = arguments.map unplacedArgument := by
  cases reads with
  | nil => exact Spells.token fun close same behind => ⟨[], .empty (congrArg Prod.fst same), rfl⟩
  | cons first reads =>
      intro others behind spelled stops
      obtain ⟨again, derived, alike⟩ :=
        closed_spells (.cons first reads) (List.cons_ne_nil _ _) spelled stops
      exact ⟨again, .items derived, alike⟩

end

/-- Before a filter, the loop makes one turn and goes on from there. -/
theorem filtersRest_step (nested : Parser Expr) (budget : Nat) (base : Expr) {cursor : Cursor}
    (spans : cursor.Spans template tokens) (pipe : ahead tokens = .pipe) :
    filtersRest nested (budget + 1) base (cursor.before tokens) =
      (filtersRest nested 1 base >>= filtersRest nested budget) (cursor.before tokens) := by
  cases tokens with
  | nil => cases pipe
  | cons bar tokens =>
      have accepted : Takes template (bar :: tokens) (accept .pipe) tokens true := by
        rw [← bind_pure (accept .pipe)]
        exact .accept pipe (by decide) (.pure _ _)
      simp only [filtersRest, bind_assoc]
      rw [bind_apply, bind_apply, accepted spans]
      simp only [Outcome.ok_bind, if_true, bind_assoc]
      refine congrFun (bind_congr fun name => bind_congr fun opened => ?_) _
      split <;> simp only [bind_assoc, pure_bind]

/-- Behind a value and its first filter, all that is left of an expression are the filters that
follow. -/
theorem filtered_continues {unary nested : Parser Expr} {operand derives : Derivation Expr}
    (operands : Implements template unary operand fun _ => True) (signs : Regular operand)
    (implements : Implements template nested derives Closes) (regular : Regular derives)
    {between : List Token} {base read : Expr}
    (value : Disjunction template operand tokens between base)
    (filter : Application template derives base between rest read) (ends : EndsFilter rest)
    {cursor : Cursor} (spans : cursor.Spans template tokens) :
    ∃ turns, rest.length ≤ turns ∧ filtered unary nested (cursor.before tokens) =
      filtersRest nested turns read (cursor.before rest) := by
  have pipe : ahead between = .pipe := filter.pipe
  have readsValue := (disjunction_implements operands signs).complete value
    (stops_of_kind (List.Subset.refl levels) (by simp [pipe]) (by simp [pipe]))
  have turn : Takes template between (filtersRest nested 1 base) rest read :=
    (filtersRest_loops implements regular).takes filter ends (.pure _ _)
  have values : Advances (Disjunction template operand) :=
    (foldr_regular signs (List.Subset.refl levels)).advances
  have behind := spans.suffix (values.suffix value)
  have shorter := (Application.advances regular.advances base).shorter filter
  obtain ⟨turns, size⟩ :=
    Nat.exists_eq_succ_of_ne_zero (Nat.ne_of_gt (Nat.zero_lt_of_lt (shorter.trans_le behind.room)))
  have room := behind.room
  refine ⟨turns, by omega, ?_⟩
  rw [filtered, bind_apply, readsValue spans, Outcome.ok_bind]
  change filtersRest nested cursor.size base (cursor.before between) = _
  rw [size, filtersRest_step _ _ _ behind pipe, bind_apply, turn behind, Outcome.ok_bind]

/-- An expression is read as far as its first filter, if its value and the filter are spelled. -/
theorem readsFilter {base filter : Expr} {lexemes more : List Lexeme}
    (value : Spells (Disjunction template (Unary template depth)) lexemes StopsPath
      fun again => again.unplaced = base.unplaced)
    (applied : ∀ start : Expr, start.unplaced = base.unplaced →
      Spells (Application template (Whole template depth) start) ((.pipe, "|") :: more) EndsFilter
        fun again => again.unplaced = filter.unplaced) :
    ReadsFilter limit template depth (lexemes ++ (.pipe, "|") :: more) filter := by
  intro cursor tokens rest spelled spans follows
  obtain ⟨before, _, rfl, spelledValue, spelledFilter⟩ := List.map_eq_append_iff.mp spelled
  obtain ⟨bar, others, rfl, sameBar, _⟩ := List.map_eq_cons_iff.mp spelledFilter
  have ends : EndsFilter rest := List.mem_cons.mp follows
  have stops : StopsPath (bar :: others ++ rest) := by
    have pipe : ahead (bar :: others ++ rest) = .pipe := congrArg Prod.fst sameBar
    rw [StopsPath, pipe]
    decide
  obtain ⟨start, derivedValue, alike⟩ := value spelledValue stops
  obtain ⟨read, derivedFilter, same⟩ := applied start alike spelledFilter ends
  rw [List.append_assoc] at spans ⊢
  obtain ⟨whole, unary⟩ := wholeAt_implements limit template depth
  obtain ⟨regular, signs⟩ := whole_regular template depth
  obtain ⟨turns, enough, run⟩ := filtered_continues unary signs whole regular derivedValue
    derivedFilter ends spans
  have behind : rest <:+ before ++ (bar :: others ++ rest) :=
    (List.suffix_append _ _).trans (List.suffix_append _ _)
  refine ⟨read, turns, same, enough, run, fun other => ?_⟩
  have stop := ((filtersRest_loops whole regular).ends (ends.resolve_left other)).2 turns read
  exact run.trans (stop (spans.suffix behind))

/-- The arguments of a filter may stand in parentheses or behind its name. Let tokens be read as a
value that takes filters, and others as arguments, each with its own value that no operator splits:
those by position first, none of them in parentheses, then those with names, each name once, and no
variable before a bracket that starts the next argument. Then both ways to write the filter behind
the value are read as the same filter, places aside, with the same arguments in the same order,
where a filter, a closing bracket or delimiter, a comma or the end of input follows. -/
theorem parentheses_optional {baseTokens : List Token} {base : Expr} {name : String}
    {written : List WrittenArgument} {arguments : Arguments}
    (readsBase : ReadsAlone template (disjunction (unaryAt limit depth)) baseTokens base)
    (reads : List.Forall₂ (WrittenArgument.Reads limit template depth) written (listed arguments))
    (distinct : (arguments.named.map (·.1)).Nodup) (apart : Apart written) :
    let filter := Expr.filter base name arguments.positional arguments.named none
    ReadsFilter limit template depth
        (baseTokens.map Token.lexeme ++ bareLexemes name written) filter ∧
      ReadsFilter limit template depth
        (baseTokens.map Token.lexeme ++ closedLexemes name written) filter := by
  obtain ⟨whole, unary⟩ := wholeAt_implements limit template depth
  obtain ⟨regular, signs⟩ := whole_regular template depth
  have derived := readsBase.derived (disjunction_implements unary signs)
  have value := (Disjunction.portable (whole_portable template depth).2).spells derived
  have arranged : Arranged (listed arguments) arguments := ⟨rfl, distinct⟩
  have pipe : (⟨.pipe, "|", {}⟩ : Token).kind = .pipe := rfl
  have named : (⟨.identifier, name, {}⟩ : Token).kind = .identifier := rfl
  have opens : (⟨.leftParen, "(", {}⟩ : Token).kind = .leftParen := rfl
  constructor
  · refine readsFilter value fun start same => ?_
    exact Application.spells_bare same pipe named (bare_spells reads apart) arranged none
  · refine readsFilter value fun start same => ?_
    exact (Application.spells_closed same pipe named opens (bracketed_spells reads) arranged
      none).mono (fun _ _ => trivial) fun _ => id

/-- A word and a named string are read the same behind the name of a filter and in parentheses. -/
theorem parentheses_optional_join :
    let place : Option Position := some ⟨"page", {}⟩
    let base : List Token := [⟨.identifier, "a", {}⟩]
    let written : List WrittenArgument := [{ value := [⟨.identifier, "b", {}⟩] },
      { name := some ⟨.identifier, "by", {}⟩, value := [⟨.string, "x", {}⟩] }]
    let arguments : Arguments := { positional := [.reference "b" [] place],
                                   named := [("by", .literal (.string "x") place)] }
    let filter := Expr.filter (.reference "a" [] place) "join" arguments.positional
      arguments.named none
    let spelled (lexemes : List Lexeme) : List Token :=
      (base.map Token.lexeme ++ lexemes).map fun lexeme => ⟨lexeme.1, lexeme.2, {}⟩
    let bare := spelled (bareLexemes "join" written)
    let closed := spelled (closedLexemes "join" written)
    let rest : List Token := [⟨.blockClose, "", {}⟩]
    (ReadsAlone "page" (disjunction (unaryAt 2 1)) base (.reference "a" [] place) ∧
      List.Forall₂ (WrittenArgument.Reads 2 "page" 1) written (listed arguments) ∧
      (arguments.named.map (·.1)).Nodup ∧ Apart written) ∧
      ∃ first second, first.unplaced = filter.unplaced ∧ second.unplaced = filter.unplaced ∧
        expression 2 (.ofTokens "page" (bare ++ rest)) =
          .ok (first, (Cursor.ofTokens "page" (bare ++ rest)).before rest) ∧
        expression 2 (.ofTokens "page" (closed ++ rest)) =
          .ok (second, (Cursor.ofTokens "page" (closed ++ rest)).before rest) := by
  intro place base written arguments filter spelled bare closed rest
  have readsBase : ReadsAlone "page" (disjunction (unaryAt 2 1)) base
      (.reference "a" [] place) := by
    unfold ReadsAlone
    cbv
  have word : WrittenArgument.Reads 2 "page" 1 { value := [⟨.identifier, "b", {}⟩] }
      (none, .reference "b" [] place) :=
    { word := by simp
      name := rfl
      value := ⟨0, rfl, by unfold ReadsAlone; cbv⟩
      bare := by decide }
  have text : WrittenArgument.Reads 2 "page" 1
      { name := some ⟨.identifier, "by", {}⟩, value := [⟨.string, "x", {}⟩] }
      (some "by", .literal (.string "x") place) :=
    { word := by simp
      name := rfl
      value := ⟨0, rfl, by unfold ReadsAlone; cbv⟩
      bare := by simp }
  have reads : List.Forall₂ (WrittenArgument.Reads 2 "page" 1) written (listed arguments) :=
    .cons word (.cons text .nil)
  have distinct : (arguments.named.map (·.1)).Nodup := by decide
  have apart : Apart written := by
    simp [Apart, written, WrittenArgument.startsWith, WrittenArgument.lexemes, Token.lexeme]
  have both : ReadsFilter 2 "page" 1 (base.map Token.lexeme ++ bareLexemes "join" written) filter ∧
      ReadsFilter 2 "page" 1 (base.map Token.lexeme ++ closedLexemes "join" written) filter :=
    parentheses_optional readsBase reads distinct apart
  have follows : ahead rest ∈ [.pipe, .rightParen, .rightBracket, .comma, .expressionClose,
    .blockClose, .endOfInput] := by decide
  have spans (tokens : List Token) := Cursor.spans_ofTokens "page" (tokens ++ rest)
  obtain ⟨first, _, sameFirst, _, _, runFirst⟩ := both.1 rfl (spans bare) follows
  obtain ⟨second, _, sameSecond, _, _, runSecond⟩ := both.2 rfl (spans closed) follows
  exact ⟨⟨readsBase, reads, distinct, apart⟩, first, second, sameFirst, sameSecond,
    runFirst (by decide), runSecond (by decide)⟩

end Grammar

end Templating
