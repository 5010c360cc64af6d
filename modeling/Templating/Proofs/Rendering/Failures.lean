import Templating.Evaluation
import Templating.Proofs.Inside
import Templating.Proofs.Outcome

/-!
How expressions can fail. An evaluation fails in the ways of the expressions that stand in it, each of
which adds its own to those of its parts; none fails for want of a template or of a scope.
-/

namespace Templating

open Outcome

/-- A failure that can come about without an inclusion and without a scope to leave. -/
def Failure.IsLocal : Failure → Prop
  | notFound _ | unresolved _ | noScope => False
  | _ => True

theorem Failure.ofOperation_isLocal (position : Option Position) (failure : OperationFailure) :
    (ofOperation position failure).IsLocal := by
  cases failure <;> trivial

theorem Failure.ofFilter_isLocal (position : Option Position) (failure : FilterFailure) :
    (ofFilter position failure).IsLocal := by
  cases failure with
  | operation failure => exact ofOperation_isLocal position failure
  | refusal | noText | host => trivial

namespace Expr

/-- The failures that an expression adds to those of its parts, in this scope, are allowed. -/
def Admits (settings : Settings) (scope : Scope) (allowed : Failure → Prop) : Expr → Prop
  | literal _ _ | list _ _ => True
  | reference name _ position =>
    ∀ path, allowed (.blamed (.undefinedVariable (dotted name path)) position)
  | binary operator left right position =>
    operator ≠ .and → operator ≠ .or → ∀ first second,
      left.eval settings scope = .ok first → right.eval settings scope = .ok second →
      Fails (evalBinary operator first second position) allowed
  | unary operator _ position => ∀ value, Fails (evalUnary operator value position) allowed
  | filter _ name _ _ position =>
    allowed (.blamed (.unknownFilter name) position) ∧
      ∀ found, settings.filters.find? name = some found → ∀ value positional named,
        Fails (applyFilter found name value positional named position) allowed

section

variable {settings : Settings} {scope : Scope} {allowed : Failure → Prop}

theorem evalReference_admitted {name : String} {position : Option Position}
    (admits : ∀ path, allowed (.blamed (.undefinedVariable (dotted name path)) position))
    (mode : UndefinedMode) (path : List Segment) :
    Fails (evalReference mode scope name path position) allowed := by
  have missing (taken : List Segment) : Fails (missing mode name taken position) allowed := by
    cases mode with
    | lenient => exact Fails.ok
    | strict => exact Fails.error (admits taken)
  unfold evalReference
  split
  · exact missing []
  · split
    · exact Fails.ok
    · exact missing _

theorem evalAll_admitted {items : List Expr}
    (each : ∀ item ∈ items, Fails (item.eval settings scope) allowed) :
    Fails (evalAll settings scope items) allowed := by
  induction items with
  | nil => exact Fails.ok
  | cons item items ih =>
      obtain ⟨first, others⟩ := List.forall_mem_cons.mp each
      rw [evalAll]
      exact Fails.bind first fun _ => Fails.bind (ih others) fun _ => Fails.ok

theorem evalNamed_admitted {named : List (String × Expr)}
    (each : ∀ pair ∈ named, Fails (pair.2.eval settings scope) allowed) :
    Fails (evalNamed settings scope named) allowed := by
  induction named with
  | nil => exact Fails.ok
  | cons pair rest ih =>
      obtain ⟨first, others⟩ := List.forall_mem_cons.mp each
      rw [evalNamed]
      exact Fails.bind first fun _ => Fails.bind (ih others) fun _ => Fails.ok

/-- An evaluation fails in no other ways than those that the expressions in it add. -/
theorem eval_admitted (expr : Expr) (all : expr.Throughout (Admits settings scope allowed)) :
    Fails (expr.eval settings scope) allowed := by
  induction expr using inductionOnParts with
  | step expr ih =>
      have parts (part : Expr) (member : part ∈ expr.parts) :
          Fails (part.eval settings scope) allowed := ih part member (all.part member)
      have here := all.here
      cases expr with
      | literal value position => exact Fails.ok
      | reference name path position => exact evalReference_admitted here _ path
      | list items position =>
          rw [eval]
          exact Fails.bind (evalAll_admitted parts) fun _ => Fails.ok
      | binary operator left right position =>
          obtain ⟨first, second⟩ : Fails (left.eval settings scope) allowed ∧
              Fails (right.eval settings scope) allowed :=
            ⟨parts left List.mem_cons_self, parts right (List.mem_cons_of_mem _ List.mem_cons_self)⟩
          cases operator with
          | and =>
              rw [eval]
              refine Fails.bind first fun value => ?_
              split
              · exact second
              · exact Fails.ok
          | or =>
              rw [eval]
              refine Fails.bind first fun value => ?_
              split
              · exact Fails.ok
              · exact second
          | equal | unequal | member | compare | arithmetic | unknown =>
              rw [eval]
              · exact Fails.bindOk first fun value evaluated =>
                  Fails.bindOk second fun other evaluatedOther =>
                    here BinaryOperator.noConfusion BinaryOperator.noConfusion value other evaluated
                      evaluatedOther
              all_goals exact fun same => by cases same
      | unary operator operand position =>
          rw [eval]
          exact Fails.bind (parts operand List.mem_cons_self) here
      | filter base name arguments named position =>
          have items : ∀ item ∈ arguments, Fails (item.eval settings scope) allowed :=
            fun item member => parts item
              (List.mem_cons_of_mem _ (List.mem_append_left _ member))
          have pairs : ∀ pair ∈ named, Fails (pair.2.eval settings scope) allowed :=
            fun pair member => parts pair.2
              (List.mem_cons_of_mem _ (List.mem_append_right _ (List.mem_map_of_mem member)))
          rw [eval]
          cases found : settings.filters.find? name with
          | none => exact Fails.error here.1
          | some filter =>
              exact Fails.bind (parts base List.mem_cons_self) fun _ =>
                Fails.bind (evalAll_admitted items) fun _ =>
                  Fails.bind (evalNamed_admitted pairs) fun _ => here.2 filter found _ _ _

end

theorem evalBinary_fails (operator : BinaryOperator) (left right : Value)
    (position : Option Position) :
    Fails (evalBinary operator left right position) Failure.IsLocal := by
  unfold evalBinary
  dsimp only
  cases operator with
  | equal | unequal => exact Fails.ok
  | and | or | unknown => exact Fails.error trivial
  | compare | member =>
      dsimp only
      split
      · exact Fails.ok
      · exact Fails.error trivial
  | arithmetic =>
      dsimp only
      split
      · exact Fails.ok
      · exact Fails.error (Failure.ofOperation_isLocal position _)

theorem evalUnary_fails (operator : UnaryOperator) (operand : Value) (position : Option Position) :
    Fails (evalUnary operator operand position) Failure.IsLocal := by
  unfold evalUnary
  cases operator with
  | not => exact Fails.ok
  | unknown => exact Fails.error trivial
  | negate =>
      dsimp only
      split
      · exact Fails.ok
      · exact Fails.error trivial

theorem applyFilter_fails (filter : Filter) (name : String) (value : Value)
    (positional : List Value) (named : Dictionary Value) (position : Option Position) :
    Fails (applyFilter filter name value positional named position) Failure.IsLocal := by
  unfold applyFilter
  split
  · exact Fails.ok
  · exact Fails.error (Failure.ofFilter_isLocal position _)

theorem admits_isLocal (settings : Settings) (scope : Scope) (expr : Expr) :
    expr.Admits settings scope Failure.IsLocal := by
  cases expr with
  | literal | list => trivial
  | reference name path position => exact fun _ => trivial
  | binary operator left right position => exact fun _ _ _ _ _ _ => evalBinary_fails _ _ _ _
  | unary operator operand position => exact fun _ => evalUnary_fails _ _ _
  | filter base name arguments named position =>
      exact ⟨trivial, fun _ _ _ _ _ => applyFilter_fails _ _ _ _ _ _⟩

theorem eval_fails (settings : Settings) (scope : Scope) (expr : Expr) :
    Fails (expr.eval settings scope) Failure.IsLocal :=
  eval_admitted expr fun _ part _ => admits_isLocal settings scope part

end Expr

end Templating
