import Templating.Proofs.Canonical.Body
import Templating.Proofs.Every
import Templating.Proofs.Grammar.Ensures
import Templating.Proofs.Grammar.Levels
import Templating.Proofs.Number.DecimalText

/-!
What expressions are read from sound tokens, and with how many signs and list items inside one
another. All of them are well-formed, as far as canonical source can spell their parts.
-/

namespace Templating

/-- No safe string stands in it, and it is well-formed if its parts can be spelled. -/
structure Expr.Faithful (expr : Expr) : Prop where
  plain : expr.PlainLiterals
  wellFormed : expr.Spellable → expr.WellFormed

namespace Expr

theorem allSpellable_iff {items : List Expr} :
    AllSpellable items ↔ ∀ item ∈ items, item.Spellable := by
  induction items with
  | nil => simp [AllSpellable]
  | cons item items ih => rw [AllSpellable, ih, List.forall_mem_cons]

theorem allWellFormed_iff {items : List Expr} :
    AllWellFormed items ↔ ∀ item ∈ items, item.WellFormed := by
  induction items with
  | nil => simp [AllWellFormed]
  | cons item items ih => rw [AllWellFormed, ih, List.forall_mem_cons]

theorem namedSpellable_iff {named : List (String × Expr)} :
    NamedSpellable named ↔ ∀ pair ∈ named, IsKeyName pair.1 ∧ pair.2.Spellable := by
  induction named with
  | nil => simp [NamedSpellable]
  | cons pair named ih => rw [NamedSpellable, ih, List.forall_mem_cons, and_assoc]

theorem namedWellFormed_iff {named : List (String × Expr)} :
    NamedWellFormed named ↔ ∀ pair ∈ named, IsKeyName pair.1 ∧ pair.2.WellFormed := by
  induction named with
  | nil => simp [NamedWellFormed]
  | cons pair named ih => rw [NamedWellFormed, ih, List.forall_mem_cons, and_assoc]

end Expr

namespace Grammar

/-- The segments of a path are well-formed if they can be spelled. -/
def FaithfulPath (path : List Segment) : Prop :=
  ∀ segment ∈ path, segment.Spellable → segment.WellFormed

end Grammar

namespace Expr

/-- What the grammar makes of sound tokens when so many signs and list items may stand inside one
another. -/
inductive Parsed : Nat → Expr → Prop where
  | literal {level : Nat} {value : Value} {position : Option Position} (plain : value.Plain)
      (rereads : value.Spellable → value.IsLiteral) : Parsed level (literal value position)
  | reference {level : Nat} {name : String} {path : List Segment} {position : Option Position}
      (identifier : IsIdentifier name) (segments : Grammar.FaithfulPath path) :
      Parsed level (reference name path position)
  | list {level : Nat} {items : List Expr} {position : Option Position}
      (room : ∀ item ∈ items, 0 < level) (parts : ∀ item ∈ items, Parsed (level - 1) item) :
      Parsed level (list items position)
  | binary {level : Nat} {operator : BinaryOperator} {left right : Expr}
      {position : Option Position} (known : operator ∈ BinaryOperator.known)
      (first : Parsed level left) (second : Parsed level right) :
      Parsed level (binary operator left right position)
  | unary {level : Nat} {operator : UnaryOperator} {operand : Expr} {position : Option Position}
      (known : operator = .not ∨ operator = .negate) (room : 0 < level)
      (inside : Parsed (level - 1) operand) : Parsed level (unary operator operand position)
  | filter {level : Nat} {base : Expr} {name : String} {arguments : List Expr}
      {named : List (String × Expr)} {position : Option Position} (value : Parsed level base)
      (identifier : IsIdentifier name) (positional : ∀ item ∈ arguments, Parsed level item)
      (values : ∀ pair ∈ named, Parsed level pair.2) (distinct : (named.map (·.1)).Nodup) :
      Parsed level (filter base name arguments named position)

/-- The same with one more sign or list around it. -/
def ParsedBelow (level : Nat) (expr : Expr) : Prop :=
  0 < level ∧ expr.Parsed (level - 1)

theorem Parsed.mono {level higher : Nat} {expr : Expr} (parsed : expr.Parsed level)
    (atMost : level ≤ higher) : expr.Parsed higher := by
  induction parsed generalizing higher with
  | literal plain rereads => exact .literal plain rereads
  | reference identifier segments => exact .reference identifier segments
  | list room _ ih =>
      exact .list (fun item member => (room item member).trans_le atMost)
        fun item member => ih item member (Nat.sub_le_sub_right atMost 1)
  | binary known _ _ first second => exact .binary known (first atMost) (second atMost)
  | unary known room _ ih =>
      exact .unary known (room.trans_le atMost) (ih (Nat.sub_le_sub_right atMost 1))
  | filter _ identifier _ _ distinct value positional values =>
      exact .filter (value atMost) identifier (fun item member => positional item member atMost)
        (fun pair member => values pair member atMost) distinct

theorem ParsedBelow.parsed {level : Nat} {expr : Expr} (below : expr.ParsedBelow level) :
    expr.Parsed level :=
  below.2.mono (Nat.sub_le level 1)

/-- Whatever the grammar makes of sound tokens is faithful. -/
theorem Parsed.faithful {level : Nat} {expr : Expr} (parsed : expr.Parsed level) :
    expr.Faithful := by
  induction parsed with
  | literal plain rereads => exact ⟨plain, rereads⟩
  | reference identifier segments =>
      exact ⟨trivial, fun spellable => ⟨identifier, fun segment member =>
        segments segment member (spellable segment member)⟩⟩
  | list _ _ ih =>
      refine ⟨allEvery_iff.mpr fun item member => (ih item member).plain, ?_⟩
      intro spellable
      rw [Spellable, allSpellable_iff] at spellable
      rw [WellFormed, allWellFormed_iff]
      exact fun item member => (ih item member).wellFormed (spellable item member)
  | binary known _ _ first second =>
      exact ⟨⟨first.plain, second.plain⟩, fun spellable =>
        ⟨known, first.wellFormed spellable.1, second.wellFormed spellable.2⟩⟩
  | unary known _ _ ih => exact ⟨ih.plain, fun spellable => ⟨known, ih.wellFormed spellable⟩⟩
  | filter _ identifier _ _ distinct value positional values =>
      constructor
      · exact ⟨trivial, value.plain,
          allEvery_iff.mpr fun item member => (positional item member).plain,
          namedEvery_iff.mpr fun pair member => (values pair member).plain⟩
      intro all
      obtain ⟨spellable, items, pairs⟩ := all
      rw [allSpellable_iff] at items
      rw [namedSpellable_iff] at pairs
      rw [WellFormed, allWellFormed_iff, namedWellFormed_iff]
      exact ⟨value.wellFormed spellable, identifier,
        fun item member => (positional item member).wellFormed (items item member),
        fun pair member =>
          ⟨(pairs pair member).1, (values pair member).wellFormed (pairs pair member).2⟩,
        distinct⟩

end Expr

namespace Grammar

open Templating.Parser

/-- The arguments read so far, none of which is named twice. -/
structure Arguments.Parsed (level : Nat) (arguments : Arguments) : Prop where
  positional : ∀ item ∈ arguments.positional, item.Parsed level
  named : ∀ pair ∈ arguments.named, pair.2.Parsed level
  distinct : (arguments.named.map (·.1)).Nodup

theorem Arguments.parsed_nil (level : Nat) : Arguments.Parsed level {} :=
  ⟨List.forall_mem_nil _, List.forall_mem_nil _, List.nodup_nil⟩

theorem numeral_yields {token : Token} (sound : token.Sound) (number : token.kind = .number) :
    Yields (numeral token) fun value =>
      (Value.number value).Spellable → (Value.number value).IsLiteral := by
  unfold numeral
  cases reads : numeral? token.value with
  | none => exact Ensures.refuse
  | some value =>
      refine Ensures.pure ⟨rfl, ?_⟩
      rw [Token.Sound, number] at sound
      obtain ⟨c, rest, spelled, decimal⟩ := sound
      unfold numeral? at reads
      split at reads
      · obtain ⟨binary, read, rfl⟩ := Option.map_eq_some_iff.mp reads
        obtain ⟨digits, exponent, rfl⟩ := Numeral.ofDecimal_of_decimal? spelled decimal read
        exact Numeral.rereads_ofDecimal
      · obtain ⟨whole, read, rfl⟩ := Option.map_eq_some_iff.mp reads
        exact fun _ => Numeral.isWhole_of_whole? spelled decimal read

theorem bracketed_yields : Yields bracketed fun segment => segment.Spellable → segment.WellFormed := by
  rw [bracketed]
  apply Ensures.current
  intro index sound
  split
  case isTrue whole =>
    have number : index.kind = .number := by
      simp only [isWholeNumeral, Bool.and_eq_true, beq_iff_eq] at whole
      exact whole.1.1
    apply Ensures.yields (numeral_yields sound number)
    rintro (position | value) literal
    · exact Ensures.pure ⟨rfl, fun _ => literal trivial⟩
    · exact Ensures.unexpected
  case isFalse =>
    split
    · exact Ensures.pure ⟨rfl, id⟩
    · exact Ensures.unexpected

theorem faithfulPath_append {path : List Segment} {segment : Segment} (faithful : FaithfulPath path)
    (last : segment.Spellable → segment.WellFormed) : FaithfulPath (path ++ [segment]) :=
  List.forall_mem_append.mpr ⟨faithful, List.forall_mem_singleton.mpr last⟩

theorem pathRest_yields {budget : Nat} {path : List Segment} (faithful : FaithfulPath path) :
    Yields (pathRest budget path) FaithfulPath := by
  induction budget generalizing path with
  | zero => exact Ensures.pure ⟨rfl, faithful⟩
  | succ budget ih =>
      rw [pathRest]
      apply Ensures.accept
      · apply Ensures.expect
        intro name _ _
        exact ih (faithfulPath_append faithful id)
      · apply Ensures.accept
        · apply Ensures.yields bracketed_yields
          intro segment last
          apply Ensures.advance
          intro _ _
          apply Ensures.expect
          intro _ _ _
          exact ih (faithfulPath_append faithful last)
        · exact Ensures.pure ⟨rfl, faithful⟩

theorem reference_ensures (level : Nat) {token : Token} (sound : token.Sound)
    (identifier : token.kind = .identifier) :
    EnsuresAt token reference fun expr names => names = [] ∧ expr.Parsed level := by
  rw [reference]
  apply EnsuresAt.advance
  apply Ensures.size
  intro budget
  apply Ensures.yields (pathRest_yields (List.forall_mem_nil _))
  intro path faithful
  apply Ensures.position
  intro position
  rw [Token.Sound, identifier] at sound
  exact Ensures.pure ⟨rfl, .reference sound faithful⟩

theorem known_of_level {level : Level} (known : level ∈ levels) {token : Token}
    {operator : BinaryOperator} (reads : level token = some operator) :
    operator ∈ BinaryOperator.known := by
  simp only [levels, List.mem_cons, List.not_mem_nil, or_false] at known
  rcases known with rfl | rfl | rfl | rfl | rfl
  all_goals
    simp only [orOperator?, andOperator?, comparisonOperator?, sumOperator?, productOperator?]
      at reads
    repeat' split at reads
    all_goals cases reads <;> decide

theorem binaryRest_yields {level : Level} (known : level ∈ levels) {operand : Parser Expr}
    {room : Nat} (yields : Yields operand (Expr.Parsed room)) {budget : Nat} {left : Expr}
    (parsed : left.Parsed room) :
    Yields (binaryRest level operand budget left) (Expr.Parsed room) := by
  induction budget generalizing left with
  | zero => exact Ensures.pure ⟨rfl, parsed⟩
  | succ budget ih =>
      rw [binaryRest]
      apply Ensures.current
      intro token _
      cases reads : level token with
      | none => exact Ensures.pure ⟨rfl, parsed⟩
      | some operator =>
          apply Ensures.advance
          intro _ _
          apply Ensures.yields yields
          intro right parsedRight
          apply Ensures.position
          intro position
          exact ih (.binary (known_of_level known reads) parsed parsedRight)

theorem disjunction_yields {operand : Parser Expr} {room : Nat}
    (yields : Yields operand (Expr.Parsed room)) :
    Yields (disjunction operand) (Expr.Parsed room) := by
  have all : ∀ part : List Level, part ⊆ levels →
      Yields (part.foldr binaryLevel operand) (Expr.Parsed room) := by
    intro part known
    induction part with
    | nil => exact yields
    | cons level part ih =>
        obtain ⟨first, rest⟩ := List.cons_subset.mp known
        rw [List.foldr_cons, binaryLevel]
        apply Ensures.yields (ih rest)
        intro left parsed
        apply Ensures.size
        intro budget
        exact binaryRest_yields first (ih rest) parsed
  rw [disjunction_eq]
  exact all levels (List.Subset.refl _)

section

variable {value : Parser Expr} {level : Nat} (yields : Yields value (Expr.Parsed level))

include yields

theorem argument_yields {before : Arguments} (parsed : before.Parsed level) :
    Yields (argument value before) (Arguments.Parsed level) := by
  have named : ∀ name : String, ¬ before.named.any (·.1 == name) → ∀ expr : Expr,
      expr.Parsed level →
      Arguments.Parsed level { before with named := before.named ++ [(name, expr)] } := by
    intro name fresh expr last
    refine ⟨parsed.positional, List.forall_mem_append.mpr
      ⟨parsed.named, List.forall_mem_singleton.mpr last⟩, ?_⟩
    rw [List.map_append, List.map_singleton, List.nodup_append]
    refine ⟨parsed.distinct, List.nodup_singleton _, ?_⟩
    rintro other member _ single rfl
    obtain ⟨pair, inside, same⟩ := List.mem_map.mp member
    apply fresh
    rw [List.any_eq_true]
    exact ⟨pair, inside, by simpa [same] using List.mem_singleton.mp single⟩
  rw [argument]
  apply Ensures.current
  intro token _
  apply Ensures.next
  intro following _
  split
  · split
    case isTrue => exact Ensures.refuse
    case isFalse fresh =>
      apply Ensures.advance
      intro _ _
      apply Ensures.advance
      intro _ _
      apply Ensures.yields yields
      intro expr last
      exact Ensures.pure ⟨rfl, named token.value fresh expr last⟩
  · split
    · exact Ensures.refuse
    · apply Ensures.yields yields
      intro expr last
      exact Ensures.pure ⟨rfl, List.forall_mem_append.mpr
        ⟨parsed.positional, List.forall_mem_singleton.mpr last⟩, parsed.named, parsed.distinct⟩

theorem argumentsRest_yields {budget : Nat} {before : Arguments} (parsed : before.Parsed level) :
    Yields (argumentsRest value budget before) (Arguments.Parsed level) := by
  induction budget generalizing before with
  | zero => exact argument_yields yields parsed
  | succ budget ih =>
      rw [argumentsRest]
      apply Ensures.yields (argument_yields yields parsed)
      intro arguments more
      apply Ensures.accept
      · exact Ensures.pure ⟨rfl, more⟩
      · apply Ensures.expect
        intro _ _ _
        exact ih more

theorem bareArguments_yields {budget : Nat} {before : Arguments} (parsed : before.Parsed level) :
    Yields (bareArguments value budget before) (Arguments.Parsed level) := by
  induction budget generalizing before with
  | zero => exact Ensures.pure ⟨rfl, parsed⟩
  | succ budget ih =>
      rw [bareArguments]
      apply Ensures.current
      intro token _
      split
      · apply Ensures.yields (argument_yields yields parsed)
        intro arguments more
        exact ih more
      · exact Ensures.pure ⟨rfl, parsed⟩

theorem closedArguments_yields : Yields (closedArguments value) (Arguments.Parsed level) := by
  rw [closedArguments]
  apply Ensures.accept
  · exact Ensures.pure ⟨rfl, Arguments.parsed_nil level⟩
  · exact Ensures.size fun budget => argumentsRest_yields yields (Arguments.parsed_nil level)

end

section

variable {nested : Parser Expr} {level : Nat} (yields : Yields nested (Expr.ParsedBelow level))

include yields

theorem itemsRest_yields {budget : Nat} {items : List Expr}
    (parsed : ∀ item ∈ items, item.ParsedBelow level) :
    Yields (itemsRest nested budget items) fun items => ∀ item ∈ items, item.ParsedBelow level := by
  induction budget generalizing items with
  | zero =>
      apply Ensures.yields yields
      intro item last
      exact Ensures.pure ⟨rfl, List.forall_mem_append.mpr
        ⟨parsed, List.forall_mem_singleton.mpr last⟩⟩
  | succ budget ih =>
      rw [itemsRest]
      apply Ensures.yields yields
      intro item last
      have more := List.forall_mem_append.mpr ⟨parsed, List.forall_mem_singleton.mpr last⟩
      apply Ensures.accept
      · exact Ensures.pure ⟨rfl, more⟩
      · apply Ensures.expect
        intro _ _ _
        exact ih more

theorem listItems_yields :
    Yields (listItems nested) fun items => ∀ item ∈ items, item.ParsedBelow level := by
  rw [listItems]
  apply Ensures.accept
  · exact Ensures.pure ⟨rfl, List.forall_mem_nil _⟩
  · exact Ensures.size fun budget => itemsRest_yields yields (List.forall_mem_nil _)

theorem primary_yields : Yields (primary nested) (Expr.Parsed level) := by
  rw [primary]
  apply Ensures.currentAt
  intro token sound
  split
  case h_1 kind =>
    apply Ensures.anywhere
    apply Ensures.advance
    intro _ _
    apply Ensures.yields (numeral_yields sound kind)
    intro value rereads
    exact Ensures.position fun position => Ensures.pure ⟨rfl, .literal trivial rereads⟩
  case h_2 =>
    apply Ensures.anywhere
    apply Ensures.advance
    intro _ _
    exact Ensures.position fun position => Ensures.pure ⟨rfl, .literal rfl fun _ => rfl⟩
  case h_3 =>
    apply Ensures.anywhere
    apply Ensures.advance
    intro _ _
    exact Ensures.position fun position => Ensures.pure ⟨rfl, .literal trivial fun _ => trivial⟩
  case h_4 =>
    apply Ensures.anywhere
    apply Ensures.advance
    intro _ _
    exact Ensures.position fun position => Ensures.pure ⟨rfl, .literal trivial fun _ => trivial⟩
  case h_5 =>
    apply Ensures.anywhere
    apply Ensures.advance
    intro _ _
    apply Ensures.yields (listItems_yields yields)
    intro items parsed
    exact Ensures.position fun position => Ensures.pure ⟨rfl,
      .list (fun item member => (parsed item member).1) fun item member => (parsed item member).2⟩
  case h_6 =>
    apply Ensures.anywhere
    apply Ensures.advance
    intro _ _
    apply Ensures.yields yields
    intro inside below
    apply Ensures.expect
    intro _ _ _
    exact Ensures.pure ⟨rfl, below.parsed⟩
  case h_7 kind => exact reference_ensures level sound kind
  case h_8 => exact Ensures.anywhere token Ensures.unexpected

theorem filtersRest_yields {budget : Nat} {base : Expr} (parsed : base.Parsed level) :
    Yields (filtersRest nested budget base) (Expr.Parsed level) := by
  induction budget generalizing base with
  | zero => exact Ensures.pure ⟨rfl, parsed⟩
  | succ budget ih =>
      rw [filtersRest]
      apply Ensures.accept
      · apply Ensures.expect
        intro name sound identifier
        rw [Token.Sound, identifier] at sound
        have continues : ∀ arguments : Arguments, arguments.Parsed level →
            Yields (do filtersRest nested budget (.filter base name.value arguments.positional
              arguments.named (← positionOf name))) (Expr.Parsed level) := fun arguments more =>
          Ensures.position fun position =>
            ih (.filter parsed sound more.positional more.named more.distinct)
        apply Ensures.accept
        · refine Ensures.yields (closedArguments_yields ?_) continues
          exact Ensures.mono yields fun _ _ holds => ⟨holds.1, holds.2.parsed⟩
        · apply Ensures.size
          intro turns
          exact Ensures.yields (bareArguments_yields (primary_yields yields)
            (Arguments.parsed_nil level)) continues
      · exact Ensures.pure ⟨rfl, parsed⟩

theorem filtered_yields {unary : Parser Expr} (operand : Yields unary (Expr.Parsed level)) :
    Yields (filtered unary nested) (Expr.Parsed level) := by
  rw [filtered]
  apply Ensures.yields (disjunction_yields operand)
  intro base parsed
  exact Ensures.size fun budget => filtersRest_yields yields parsed

end

theorem signed_yields {deeper : Token → Parser Expr} {unsplit : Parser Expr} {level : Nat}
    (operand : ∀ token, Yields (deeper token) (Expr.ParsedBelow level))
    (yields : Yields unsplit (Expr.Parsed level)) :
    Yields (signed deeper unsplit) (Expr.Parsed level) := by
  rw [signed]
  apply Ensures.current
  intro token _
  cases reads : unaryOperator? token with
  | none => exact yields
  | some operator =>
      have known : operator = .not ∨ operator = .negate := by
        unfold unaryOperator? at reads
        split at reads
        · cases reads
          exact .inr rfl
        · split at reads <;> cases reads
          exact .inl rfl
      apply Ensures.advance
      intro _ _
      apply Ensures.yields (operand token)
      intro inside below
      exact Ensures.position fun position => Ensures.pure ⟨rfl, .unary known below.1 below.2⟩

theorem wholeAt_yields (limit : Int) (depth : Nat) :
    Yields (wholeAt limit depth) (Expr.ParsedBelow depth) ∧
      Yields (unaryAt limit depth) (Expr.Parsed depth) := by
  have here : Yields (tooDeepHere limit) (Expr.ParsedBelow 0) :=
    Ensures.current fun _ _ => Ensures.refuse
  have deeper : ∀ {parser : Parser Expr} {level : Nat}, Yields parser (Expr.Parsed level) →
      Yields parser (Expr.ParsedBelow (level + 1)) := fun {_ level} yields =>
    Ensures.mono yields fun _ _ holds => ⟨holds.1, level.succ_pos, holds.2⟩
  induction depth with
  | zero => exact ⟨here, signed_yields (fun _ => Ensures.refuse) (primary_yields here)⟩
  | succ depth ih =>
      have whole := filtered_yields ih.1 ih.2
      exact ⟨deeper whole, signed_yields (fun _ => deeper ih.2) (primary_yields (deeper whole))⟩

/-- What every expression is that is read from a source text. -/
theorem expression_yields (limit : Int) :
    Yields (expression limit) (Expr.ParsedBelow limit.toNat) :=
  (wholeAt_yields limit limit.toNat).1

end Grammar

end Templating
