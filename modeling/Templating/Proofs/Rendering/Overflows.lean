import Templating.Proofs.Filter.Refusals
import Templating.Proofs.Number.Overflow
import Templating.Proofs.Rendering.Stepwise

/-!
Where a rendering overflows: at a point where it evaluates an expression in which an operation takes
a whole number that is too large for floating point.
-/

namespace Templating

open Outcome

namespace Expr

/-- In this scope the expression is an operation on two numbers, one of them a whole number that is
too large for floating point, and has no result for that. -/
def Overflows (settings : Settings) (scope : Scope) (expr : Expr) : Prop :=
  ∃ operator left right position first second,
    expr = binary (.arithmetic operator) left right position ∧
    left.eval settings scope = .ok (.number first) ∧
    right.eval settings scope = .ok (.number second) ∧
    Value.numeric operator first second = .error .overflow ∧ (first.IsHuge ∨ second.IsHuge)

theorem evalBinary_overflow {operator : BinaryOperator} {left right : Value}
    {position : Option Position}
    (failed : evalBinary operator left right position = .error .overflow) :
    ∃ arithmetic, operator = .arithmetic arithmetic ∧
      Value.arithmetic arithmetic left right = .error .overflow := by
  unfold evalBinary at failed
  cases operator with
  | equal | unequal | and | or | unknown => cases failed
  | compare | member =>
      dsimp only at failed
      split at failed <;> cases failed
  | arithmetic operator =>
      dsimp only at failed
      split at failed
      case h_1 => cases failed
      case h_2 failure same =>
        cases failure with
        | cause => cases failed
        | overflow => exact ⟨operator, rfl, same⟩

theorem evalUnary_ne_overflow (operator : UnaryOperator) (operand : Value)
    (position : Option Position) : evalUnary operator operand position ≠ .error .overflow := by
  unfold evalUnary
  cases operator with
  | not | unknown => exact nofun
  | negate =>
      dsimp only
      split <;> exact nofun

section

variable {settings : Settings} {scope : Scope} (builtin : settings.filters = .builtin)

include builtin

theorem applyFilter_ne_overflow {filter : Filter} {name : String}
    (found : settings.filters.find? name = some filter) (value : Value) (positional : List Value)
    (named : Dictionary Value) (position : Option Position) :
    applyFilter filter name value positional named position ≠ .error .overflow := by
  rw [builtin] at found
  unfold applyFilter
  split
  case h_1 => exact nofun
  case h_2 failure failed =>
    have refuses := Registry.builtin_refuses found name value positional named failure failed
    cases failure with
    | refusal | noText => exact nofun
    | operation | host => exact refuses.elim

/-- Among what an expression adds to the failures of its parts, only its own overflow is one. -/
theorem admits_overflow {expr : Expr} {overflows : Prop}
    (own : expr.Overflows settings scope → overflows) :
    expr.Admits settings scope fun failure => failure = .overflow → overflows := by
  cases expr with
  | literal | list => trivial
  | reference name path position => exact fun _ => nofun
  | binary operator left right position =>
      rintro _ _ first second evaluated evaluatedOther _ failed rfl
      obtain ⟨operator, rfl, overflow⟩ := evalBinary_overflow failed
      obtain ⟨first, second, rfl, rfl, overflows⟩ := Value.arithmetic_overflow overflow
      exact own ⟨operator, left, right, position, first, second, rfl, evaluated, evaluatedOther,
        overflows⟩
  | unary operator operand position =>
      rintro value _ failed rfl
      exact absurd failed (evalUnary_ne_overflow operator value position)
  | filter base name arguments named position =>
      refine ⟨nofun, ?_⟩
      rintro filter found value positional named _ failed rfl
      exact absurd failed (applyFilter_ne_overflow builtin found value positional named position)

/-- An evaluation overflows only where an operation in the expression does. -/
theorem eval_overflow {expr : Expr} (failed : expr.eval settings scope = .error .overflow) :
    ∃ depth part, expr.Within depth part ∧ part.Overflows settings scope := by
  have fails : Fails (expr.eval settings scope) fun failure => failure = .overflow →
      ∃ depth part, expr.Within depth part ∧ part.Overflows settings scope :=
    eval_admitted expr fun depth part within =>
      admits_overflow builtin fun overflows => ⟨depth, part, within, overflows⟩
  exact fails .overflow failed rfl

end

end Expr

/-- The expressions that a rendering evaluates as it comes to the node. The tests of a condition are
evaluated branch by branch. -/
def Node.heads : Node → List Expr
  | .condition .. => []
  | node => node.exprs

namespace Rendering

def Task.evaluates : Task → List Expr
  | .nodes (node :: _) => node.heads
  | .branches (tested :: _) _ => [tested.test]
  | _ => []

/-- The expressions that the next step evaluates, in the scope of the point. -/
def Point.evaluates (point : Point) : List Expr :=
  match point.outcome, point.work with
  | .ok (), task :: _ => task.evaluates
  | _, _ => []

section

variable {settings : Settings} {includes : Dictionary (List Node)} {point after last : Point}

theorem Point.ne_overflow (fine : point.outcome = .ok ()) : point.outcome ≠ .error .overflow := by
  intro failed
  rw [fine] at failed
  cases failed

theorem perform_overflow {expr : Expr} {onwards : Value → Rendering Unit}
    (fine : ∀ value, (onwards value point.canvas).1 ≠ .error .overflow)
    (failed : (point.perform (evaluate settings expr >>= onwards)).outcome = .error .overflow) :
    expr.eval settings point.canvas.scope = .error .overflow := by
  cases evaluated : expr.eval settings point.canvas.scope with
  | ok value =>
      rw [Point.perform_evaluate evaluated] at failed
      exact absurd failed (fine value)
  | error failure =>
      rw [Point.perform_evaluate_error evaluated] at failed
      cases failed
      rfl

theorem insideScope_overflow {scope : Scope} {bindings : Option (List (String × Expr))}
    (failed : insideScope settings scope bindings = .error .overflow) :
    ∃ expr ∈ (bindings.getD []).map (·.2), expr.eval settings scope = .error .overflow := by
  cases bindings with
  | none => cases failed
  | some pairs =>
      have fails : Fails (Expr.evalNamed settings scope pairs) fun failure =>
          ∃ pair ∈ pairs, pair.2.eval settings scope = .error failure :=
        Expr.evalNamed_admitted fun pair member _ same => ⟨pair, member, same⟩
      obtain ⟨pair, member, same⟩ := fails .overflow (map_eq_error.mp failed)
      exact ⟨pair.2, List.mem_map_of_mem member, same⟩

theorem enterInclusion_overflow (fine : point.outcome = .ok ()) {name : String}
    {bindings : Option (List (String × Expr))} {position : Option Position}
    (failed : (enterInclusion settings includes point name bindings position).outcome =
      .error .overflow) :
    insideScope settings point.canvas.scope bindings = .error .overflow := by
  unfold enterInclusion at failed
  split at failed
  case h_1 => cases failed
  case h_2 =>
    split at failed
    case isTrue => cases failed
    case isFalse =>
      split at failed
      case h_1 failure seen =>
        cases failed
        exact seen
      case h_2 => exact absurd failed (Point.ne_overflow fine)

theorem enterLoop_overflow (fine : point.outcome = .ok ()) {targets : List String}
    {iterable : Expr} {content : List Node} {otherwise : Option (List Node)}
    {position : Option Position}
    (failed : (enter settings includes point
      (.loop targets iterable content otherwise position)).outcome = .error .overflow) :
    iterable.eval settings point.canvas.scope = .error .overflow := by
  unfold enter at failed
  dsimp only at failed
  split at failed
  case h_1 failure evaluated =>
    cases failed
    exact evaluated
  case h_2 value evaluated =>
    split at failed
    case h_1 => cases failed
    case h_2 => exact absurd failed (Point.ne_overflow fine)
    case h_3 =>
      split at failed
      case isTrue => cases failed
      case isFalse => exact absurd failed (Point.ne_overflow fine)

/-- A node overflows at once only in an expression of its own. -/
theorem enter_overflow (point : Point) (fine : point.outcome = .ok ()) {node : Node}
    (failed : (enter settings includes point node).outcome = .error .overflow) :
    ∃ expr ∈ node.heads, expr.eval settings point.canvas.scope = .error .overflow := by
  cases node with
  | text => cases failed
  | output expr position =>
      refine ⟨expr, List.mem_cons_self, perform_overflow (fun value => ?_) failed⟩
      split <;> exact nofun
  | condition | block | parent => exact absurd failed (Point.ne_overflow fine)
  | loop targets iterable content otherwise position =>
      exact ⟨iterable, List.mem_cons_self, enterLoop_overflow fine failed⟩
  | binding name value position =>
      refine ⟨value, List.mem_cons_self, perform_overflow (fun value same => ?_) failed⟩
      cases same
  | inclusion name bindings position =>
      exact insideScope_overflow (enterInclusion_overflow fine failed)

theorem popped_overflow (point : Point) (failed : point.popped.outcome = .error .overflow) :
    point.outcome = .error .overflow := by
  unfold Point.popped at failed
  split at failed
  · exact failed
  · cases failed

/-- Putting back what was put aside never overflows. -/
theorem restore_overflow (point : Point) {task : Task}
    (failed : (task.restore point).outcome = .error .overflow) :
    point.outcome = .error .overflow := by
  cases task with
  | turned => exact popped_overflow point failed
  | shared next saved => exact popped_overflow { point with depth := saved } failed
  | nodes | branches | turns | own => exact failed

theorem resume_overflow (point : Point) (fine : point.outcome = .ok ()) {task : Task}
    (failed : (task.resume settings includes point).outcome = .error .overflow) :
    ∃ expr ∈ task.evaluates, expr.eval settings point.canvas.scope = .error .overflow := by
  have goesOn := Point.ne_overflow fine
  cases task with
  | nodes rest =>
      cases rest with
      | nil => exact absurd failed goesOn
      | cons node rest => exact enter_overflow (point.push (.nodes rest)) fine failed
  | branches rest otherwise =>
      cases rest with
      | nil => exact absurd failed goesOn
      | cons tested rest =>
          obtain ⟨test, content, position⟩ := tested
          refine ⟨test, List.mem_cons_self, ?_⟩
          rw [Task.resume] at failed
          split at failed
          case h_1 failure evaluated =>
            cases failed
            exact evaluated
          case h_2 =>
            split at failed <;> exact absurd failed goesOn
  | turns frames content => cases frames <;> exact absurd failed goesOn
  | turned | shared | own => exact absurd (restore_overflow point failed) goesOn

/-- A step overflows only in an expression that it evaluates. -/
theorem step_overflow (steps : step settings includes point = some after)
    (failed : after.outcome = .error .overflow) :
    point.outcome = .error .overflow ∨
      ∃ expr ∈ point.evaluates, expr.eval settings point.canvas.scope = .error .overflow := by
  obtain ⟨work, canvas, depth, outcome⟩ := point
  cases work with
  | nil => cases steps
  | cons task others =>
      cases outcome with
      | ok value =>
          cases steps
          exact .inr (resume_overflow ⟨others, canvas, depth, .ok ()⟩ rfl failed)
      | error failure =>
          cases steps
          exact .inl (restore_overflow ⟨others, canvas, depth, .error failure⟩ failed)

/-- Between a point without an overflow and one with it there is a point that brings it about. -/
theorem reaches_overflow (reached : Reaches settings includes point last)
    (fine : point.outcome ≠ .error .overflow) (failed : last.outcome = .error .overflow) :
    ∃ middle, Reaches settings includes point middle ∧ ∃ expr ∈ middle.evaluates,
      expr.eval settings middle.canvas.scope = .error .overflow := by
  induction reached with
  | refl => exact absurd failed fine
  | tail earlier steps ih =>
      obtain before | ⟨expr, next, overflow⟩ := step_overflow steps failed
      · exact ih before
      · exact ⟨_, earlier, expr, next, overflow⟩

end

end Rendering

namespace Resolved

open Rendering

/-- Under the scope, the rendering comes to a point where what it evaluates overflows, because of an
operation in it that overflows in the scope of that point. -/
def Overflows (resolved : Resolved) (settings : Settings) (scope : Scope) : Prop :=
  ∃ point, Reached settings resolved scope point ∧ ∃ expr ∈ point.evaluates,
    expr.eval settings point.canvas.scope = .error .overflow ∧
    ∃ depth part, expr.Within depth part ∧ part.Overflows settings point.canvas.scope

theorem overflows_of_whole {resolved : Resolved} {settings : Settings}
    (builtin : settings.filters = .builtin) {scope : Scope} {canvas : Canvas}
    (failed : whole settings resolved { scope := scope } = (.error .overflow, canvas)) :
    resolved.Overflows settings scope := by
  have ended := whole_reaches settings resolved scope
  have last : (Point.perform { work := [], canvas := { scope := scope } }
      (whole settings resolved)).outcome = .error .overflow := congrArg Prod.fst failed
  obtain ⟨point, reached, expr, next, overflow⟩ := reaches_overflow ended nofun last
  exact ⟨point, reached, expr, next, overflow, Expr.eval_overflow builtin overflow⟩

end Resolved

end Templating
