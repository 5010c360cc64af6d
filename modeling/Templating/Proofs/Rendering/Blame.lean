import Mathlib
import Templating.Proofs.Escaping.Output
import Templating.Proofs.Filter.Refusals
import Templating.Proofs.Grammar.Compiled
import Templating.Proofs.Inheritance.Provenance
import Templating.Proofs.Rendering.Overflows

/-!
What a rendering can fail with. What the grammar and the resolver guarantee leaves causes that are
told with a place in the template, apart from two failures that have none: values that cannot be
printed, and arithmetic on whole numbers that are too large for floating point.
-/

namespace Templating

open Outcome

/-- What every node of a compiled template is, apart from the bodies in it. -/
structure Node.IsCompiled (node : Node) : Prop where
  sound : node.Sound
  placed : ∀ place ∈ node.places, place.isSome
  exprs : ∀ expr ∈ node.exprs, ∃ level, expr.Parsed level

theorem Node.sound_shell {node : Node} : node.shell.Sound ↔ node.Sound := by
  cases node <;> rfl

open Node in
theorem Template.IsCompiled.nodes {template : Template} (compiled : template.IsCompiled) :
    template.Throughout Node.IsCompiled := by
  intro shell member
  obtain ⟨_, _, same⟩ := compiled.own
  obtain ⟨level, body, node, inside, among, rfl⟩ := mem_bodyShells_iff.mp member
  have fits := (bodyParsed_iff.mp ((isParsed_of_compile same).body.inside inside).2).nodes node among
  refine ⟨sound_shell.mpr fits.sound, fun place placed => ?_, fun expr part => ?_⟩
  · obtain ⟨mark, rfl, _⟩ := compiled.stands _ member place placed
    rfl
  · rw [exprs_shell] at part
    exact ⟨_, (fits.exprs expr part).parsed⟩

namespace Resolved

/-- The shells of all nodes in a resolved template and in those that it includes. -/
def shells (resolved : Resolved) : List Node :=
  Node.bodyShells resolved.body ++ resolved.includes.flatMap fun entry => Node.bodyShells entry.2

theorem Throughout.shells {holds : Node → Prop} {resolved : Resolved}
    (all : resolved.Throughout holds) : ∀ shell ∈ resolved.shells, holds shell := by
  intro shell member
  obtain own | included := List.mem_append.mp member
  · exact all.body shell own
  · obtain ⟨entry, among, inside⟩ := List.mem_flatMap.mp included
    exact all.includes entry among shell inside

theorem mem_places {resolved : Resolved} {shell : Node} {place : Option Position}
    (member : shell ∈ resolved.shells) (placed : place ∈ shell.places) :
    place ∈ resolved.places := by
  obtain own | included := List.mem_append.mp member
  · exact List.mem_append_left _ (List.mem_flatMap.mpr ⟨shell, own, placed⟩)
  · obtain ⟨entry, among, inside⟩ := List.mem_flatMap.mp included
    exact List.mem_append_right _ (List.mem_flatMap.mpr
      ⟨entry, among, List.mem_flatMap.mpr ⟨shell, inside, placed⟩⟩)

/-- The expression stands somewhere in a node of the template or of what it includes. -/
def HasExpr (resolved : Resolved) (expr : Expr) : Prop :=
  ∃ shell ∈ resolved.shells, ∃ whole ∈ shell.exprs, ∃ depth, whole.Within depth expr

/-- What a rendering of the template may fail with: a cause at a place in the template, a value
without a text, or an overflow if something overflows. -/
def Expects (resolved : Resolved) (overflows : Prop) : Failure → Prop
  | .fault fault => (∃ cause, fault.cause = .rendering cause) ∧
    ∃ position, fault.position = some position ∧ some position ∈ resolved.places
  | .noText => True
  | .overflow => overflows
  | _ => False

section

variable {resolved : Resolved} {settings : Settings}

/-- Quoting the source line changes neither the cause nor the place. -/
theorem expects_quoteSource {overflows : Prop} {failure : Failure}
    (expected : resolved.Expects overflows failure) :
    resolved.Expects overflows (resolved.quoteSource failure) := by
  cases failure with
  | fault fault =>
      obtain ⟨⟨cause, caused⟩, position, placed, member⟩ := expected
      have kept : (fault.attach resolved.sources.get?).cause = fault.cause ∧
          (fault.attach resolved.sources.get?).position = fault.position := by
        rw [Located.attach, placed]
        dsimp only
        split <;> exact ⟨rfl, placed.symm ▸ rfl⟩
      exact ⟨⟨cause, kept.1.trans caused⟩, position, kept.2.trans placed, member⟩
  | _ => exact expected

variable (compiled : resolved.Throughout Node.IsCompiled)

include compiled

theorem expects_blamed {shell : Node} {place : Option Position} (member : shell ∈ resolved.shells)
    (placed : place ∈ shell.places) (cause : RenderCause) :
    resolved.Expects True (.blamed cause place) := by
  obtain ⟨position, rfl⟩ :=
    Option.isSome_iff_exists.mp ((compiled.shells shell member).placed place placed)
  exact ⟨⟨cause, rfl⟩, position, rfl, mem_places member placed⟩

theorem HasExpr.blamed {expr : Expr} (has : resolved.HasExpr expr) (cause : RenderCause) :
    resolved.Expects True (.blamed cause expr.position) := by
  obtain ⟨shell, member, whole, part, depth, within⟩ := has
  exact expects_blamed compiled member (List.mem_cons_of_mem _ (List.mem_append_right _
    (List.mem_flatMap.mpr ⟨whole, part, within.position_mem⟩))) cause

theorem HasExpr.parsed {expr : Expr} (has : resolved.HasExpr expr) :
    ∃ level, expr.Parsed level := by
  obtain ⟨shell, member, whole, part, depth, within⟩ := has
  obtain ⟨level, outer⟩ := (compiled.shells shell member).exprs whole part
  exact ⟨_, (outer.within within).2⟩

theorem HasExpr.binary_fails {operator : BinaryOperator} {left right : Expr}
    {position : Option Position} (has : resolved.HasExpr (.binary operator left right position))
    (notAnd : operator ≠ .and) (notOr : operator ≠ .or) (first second : Value) :
    Fails (Expr.evalBinary operator first second position) (resolved.Expects True) := by
  have blamed (cause : RenderCause) : resolved.Expects True (.blamed cause position) :=
    has.blamed compiled cause
  unfold Expr.evalBinary
  dsimp only
  cases operator with
  | equal | unequal => exact Fails.ok
  | and => exact absurd rfl notAnd
  | or => exact absurd rfl notOr
  | unknown symbol =>
      obtain ⟨level, parsed⟩ := has.parsed compiled
      cases parsed with
      | binary known => simp [BinaryOperator.known] at known
  | compare | member =>
      dsimp only
      split
      · exact Fails.ok
      · exact Fails.error (blamed _)
  | arithmetic operator =>
      dsimp only
      split
      · exact Fails.ok
      case h_2 failure failed =>
        cases failure with
        | cause cause => exact Fails.error (blamed _)
        | overflow => exact Fails.error trivial

theorem HasExpr.unary_fails {operator : UnaryOperator} {operand : Expr}
    {position : Option Position} (has : resolved.HasExpr (.unary operator operand position))
    (value : Value) :
    Fails (Expr.evalUnary operator value position) (resolved.Expects True) := by
  have blamed (cause : RenderCause) : resolved.Expects True (.blamed cause position) :=
    has.blamed compiled cause
  unfold Expr.evalUnary
  cases operator with
  | not => exact Fails.ok
  | negate =>
      dsimp only
      split
      · exact Fails.ok
      · exact Fails.error (blamed _)
  | unknown symbol =>
      obtain ⟨level, parsed⟩ := has.parsed compiled
      cases parsed with
      | unary known =>
          obtain never | never := known <;> cases never

variable (builtin : settings.filters = .builtin)

include builtin

theorem HasExpr.filter_fails {base : Expr} {name : String} {arguments : List Expr}
    {pairs : List (String × Expr)} {position : Option Position}
    (has : resolved.HasExpr (.filter base name arguments pairs position)) {filter : Filter}
    (found : settings.filters.find? name = some filter) (value : Value) (positional : List Value)
    (named : Dictionary Value) :
    Fails (Expr.applyFilter filter name value positional named position)
      (resolved.Expects True) := by
  rw [builtin] at found
  unfold Expr.applyFilter
  split
  · exact Fails.ok
  case h_2 failure failed =>
    have refuses := Registry.builtin_refuses found name value positional named failure failed
    cases failure with
    | refusal refusal => exact Fails.error (has.blamed compiled _)
    | noText => exact Fails.error trivial
    | operation | host => exact refuses.elim

/-- Every expression of the template adds only expected failures. -/
theorem HasExpr.admits {expr : Expr} (has : resolved.HasExpr expr) (scope : Scope) :
    expr.Admits settings scope (resolved.Expects True) := by
  cases expr with
  | literal | list => trivial
  | reference name path position => exact fun _ => has.blamed compiled _
  | binary operator left right position =>
      exact fun notAnd notOr first second _ _ => has.binary_fails compiled notAnd notOr first second
  | unary operator operand position => exact has.unary_fails compiled
  | filter base name arguments named position =>
      exact ⟨has.blamed compiled _, fun filter found => has.filter_fails compiled builtin found⟩

theorem eval_expected {shell : Node} (member : shell ∈ resolved.shells) {expr : Expr}
    (part : expr ∈ shell.exprs) (scope : Scope) :
    Fails (expr.eval settings scope) (resolved.Expects True) :=
  Expr.eval_admitted expr fun depth _ within =>
    HasExpr.admits compiled builtin ⟨shell, member, expr, part, depth, within⟩ scope

variable (closed : Resolver.Closed resolved.body resolved.includes
  {name | resolved.includes.has name = true})

/-- What an inclusion in the template needs it has. -/
def CanInsert (resolved : Resolved) (settings : Settings) : Rendering.Includable :=
  fun name _ position => Rendering.Insertable settings resolved.includes
    (fun name => resolved.includes.has name = true) (resolved.Expects True) name position

theorem shell_admits {shell : Node} (member : shell ∈ resolved.shells)
    (included : ∀ name bindings position, shell = .inclusion name bindings position →
      resolved.includes.has name = true) :
    Rendering.Admits settings (resolved.Expects True) (resolved.CanInsert settings) shell := by
  refine ⟨fun expr part scope => eval_expected compiled builtin member part scope, ?_⟩
  have own : shell.position ∈ shell.places := List.mem_cons_self
  cases shell with
  | output => exact trivial
  | loop targets iterable body otherwise position =>
      constructor
      · intro type
        have placed : iterable.position ∈ (Node.loop targets iterable body otherwise position).places :=
          List.mem_cons_of_mem _ (List.mem_append_right _
            (List.mem_flatMap.mpr ⟨iterable, List.mem_cons_self, Expr.Within.whole.position_mem⟩))
        obtain ⟨place, known⟩ :=
          Option.isSome_iff_exists.mp ((compiled.shells _ member).placed _ placed)
        rw [known, Option.some_or, ← known]
        exact expects_blamed compiled member placed _
      · rintro rfl
        obtain ⟨_, _, none | none⟩ : Node.TargetsWellFormed [] := (compiled.shells _ member).sound <;>
          cases none
  | inclusion name bindings position =>
      have has := included name bindings position rfl
      refine ⟨has, fun absent => ?_, expects_blamed compiled member own _⟩
      rw [Dictionary.has_eq_isSome, absent] at has
      cases has
  | text | condition | binding | block | parent => exact trivial

include closed

theorem content_admits {name : String} {content : List Node}
    (has : resolved.includes.has name = true) (found : resolved.includes.get? name = some content) :
    Node.BodyThroughout
      (Rendering.Admits settings (resolved.Expects True) (resolved.CanInsert settings))
      content := by
  intro shell member
  have among : shell ∈ resolved.shells := List.mem_append_right _
    (List.mem_flatMap.mpr ⟨_, Dictionary.mem_of_get? found, member⟩)
  refine shell_admits compiled builtin among ?_
  rintro other bindings position rfl
  exact closed.2 name has content found other
    (Node.includes_of_mem (Node.mem_bodyInclusions_of_shells member))

theorem whole_expected :
    Rendering.Confined (Node.boundBody true resolved.body) (resolved.Expects True)
      (Rendering.whole settings resolved) := by
  refine Rendering.body_admitted resolved.body fun shell member => ?_
  have among : shell ∈ resolved.shells := List.mem_append_left _ member
  have admits : Rendering.Admits settings (resolved.Expects True)
      (resolved.CanInsert settings) shell := by
    refine shell_admits compiled builtin among ?_
    rintro name bindings position rfl
    exact closed.1 name (Node.includes_of_mem (Node.mem_bodyInclusions_of_shells member))
  refine admits.mono fun name bindings position same insertable => ?_
  refine Rendering.insertion_admitted
    (fun _ _ has found => content_admits compiled builtin closed has found) _ insertable ?_
  rw [same] at admits
  exact fun pair bound => admits.exprs pair.2 (List.mem_map_of_mem bound)

theorem renderIn_expected (scope : Scope) :
    Fails (resolved.renderIn settings scope).1
      (resolved.Expects (resolved.Overflows settings scope)) := by
  obtain ⟨outcome, canvas, run, _, causes⟩ := resolved.renderIn_whole settings scope
  intro failure failed
  obtain ⟨cause, rfl, rfl⟩ := causes failure failed
  have expected := (whole_expected compiled builtin closed).fails _ cause canvas run
  refine expects_quoteSource ?_
  cases cause with
  | overflow => exact overflows_of_whole builtin run
  | _ => exact expected

end

/-- What holds of all shells of compiled templates holds of those that are put together. -/
theorem IsBuilt.throughout {σ : Type} {source : Source σ} {before : Resolver.State σ}
    {resolved : Resolved} {holds : Node → Prop} (built : resolved.IsBuilt source before)
    (each : ∀ template : Template, template.IsCompiled → template.Throughout holds) :
    resolved.Throughout holds := by
  have supplies : source.Supplies (Template.Throughout holds) :=
    fun _ _ _ _ fetched => each _ (built.supplies fetched)
  have table : before.Each (Template.Throughout holds) :=
    fun entry member => each _ (built.table entry member)
  obtain ⟨options, after, ⟨name, run⟩ | ⟨main, compiled, run⟩⟩ := built.resolves
  · exact (Resolver.named_throughout supplies options name table run).2
  · exact (Resolver.template_throughout supplies options (each main compiled) table run).2

section

variable {loader : Option Loader} {delimiters : Delimiters} {options : Options}

/-- Every template that is included from what is put together is included in it. -/
theorem closed_of_template {taken : Options} {main : Template} {before after : Resolver.State Unit}
    {resolved : Resolved}
    (run : Resolver.template (Loader.source loader delimiters options) taken main before =
      (.ok resolved, after)) :
    Resolver.Closed resolved.body resolved.includes {name | resolved.includes.has name = true} := by
  obtain ⟨above, middle, result, followed, gathers, rfl⟩ := Resolver.template_ok.mp run
  have counts := Resolver.loader_counts loader delimiters options
  obtain ⟨_, gathered, ended⟩ := Resolver.gather_gathered (counts.lists_find middle)
    (.start above.body) (counts.names_lt middle) rfl gathers
  exact (gathered.isLeast ended).1

theorem IsBuilt.closed {before : Resolver.State Unit} {resolved : Resolved}
    (built : resolved.IsBuilt (Loader.source loader delimiters options) before) :
    Resolver.Closed resolved.body resolved.includes {name | resolved.includes.has name = true} := by
  obtain ⟨taken, after, ⟨name, run⟩ | ⟨main, _, run⟩⟩ := built.resolves
  · obtain ⟨main, between, _, run⟩ := Resolver.named_ok.mp run
    exact closed_of_template run
  · exact closed_of_template run

/-- With the built-in filters, every failure to render what is put together from compiled templates
has a cause of rendering and a place in one of them, apart from values that have no text and from
overflows. The rendering overflows only where it evaluates arithmetic on a whole number that is too
large for floating point. -/
theorem render_expected {before : Resolver.State Unit} {resolved : Resolved}
    (built : resolved.IsBuilt (Loader.source loader delimiters options) before)
    {settings : Settings} (builtin : settings.filters = .builtin) :
    (∀ values failure, resolved.render settings values = .error failure →
      resolved.Expects (resolved.Overflows settings (.ofFrame values)) failure) ∧
    ∀ scope failure, (resolved.renderUnder settings scope).1 = .error failure →
      resolved.Expects (resolved.Overflows settings (scope.push [])) failure := by
  have compiled := built.throughout fun _ original => original.nodes
  refine ⟨fun values => renderIn_expected compiled builtin built.closed _, fun scope => ?_⟩
  rw [resolved.renderUnder_eq]
  exact renderIn_expected compiled builtin built.closed _

/-- A page that includes a row, which divides by zero. -/
theorem render_expected_division : ∃ (texts : Dictionary String) (resolved : Resolved)
    (fault : Fault), resolved.IsBuilt (Loader.source (some ⟨texts⟩) {} {}) ⟨[], (), []⟩ ∧
      resolved.render {} [("n", .int 0)] = .error (.fault fault) ∧
      fault.position = some ⟨"row", 1, 6, 5⟩ ∧
      resolved.Expects (resolved.Overflows {} (.ofFrame [("n", .int 0)])) (.fault fault) := by
  have known : ∃ resolved after fault,
      Resolver.named (Loader.source (some ⟨[
        ("page", "\x7b% include 'row' %\x7d"), ("row", "\x7b\x7b 1 / n \x7d\x7d")]⟩) {} {}) {} "page"
          ⟨[], (), []⟩ = (.ok resolved, after) ∧
        resolved.render {} [("n", .int 0)] = .error (.fault fault) ∧
        fault.position = some ⟨"row", 1, 6, 5⟩ :=
    ⟨_, _, _, by cbv, by cbv, by cbv⟩
  obtain ⟨resolved, after, fault, run, failed, placed⟩ := known
  have built : resolved.IsBuilt (Loader.source (some ⟨_⟩) {} {}) ⟨[], (), []⟩ :=
    ⟨Loader.source_supplies _ _ _, .nil, {}, after, .inl ⟨"page", run⟩⟩
  exact ⟨_, resolved, fault, built, failed, placed, (render_expected built rfl).1 _ _ failed⟩

/-- The sum of a whole number with four hundred zeros and of a fraction is a failure without a
place. -/
theorem render_overflow_placeless : ¬ ∀ (loader : Option Loader) (resolved : Resolved)
    (values : Frame) (failure : Failure),
      resolved.IsBuilt (Loader.source loader {} {}) ⟨[], (), []⟩ →
      resolved.render {} values = .error failure → failure ≠ .noText →
      ∃ fault position, failure = .fault fault ∧ fault.position = some position := by
  intro placed
  have known : ∃ resolved after,
      Resolver.named (Loader.source (some ⟨[("sum", "\x7b\x7b n + 1.5 \x7d\x7d")]⟩) {} {}) {} "sum"
          ⟨[], (), []⟩ = (.ok resolved, after) ∧
        resolved.render {} [("n", .int (10 ^ 400))] = .error .overflow :=
    ⟨_, _, by cbv, by decide +kernel⟩
  obtain ⟨resolved, after, run, failed⟩ := known
  have built : resolved.IsBuilt (Loader.source (some ⟨_⟩) {} {}) ⟨[], (), []⟩ :=
    ⟨Loader.source_supplies _ _ _, .nil, {}, after, .inl ⟨"sum", run⟩⟩
  obtain ⟨_, _, same, _⟩ := placed _ resolved _ _ built failed Failure.noConfusion
  cases same

end

end Resolved

end Templating
