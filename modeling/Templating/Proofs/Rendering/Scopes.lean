import Templating.Proofs.Rendering.Confined

/-!
Rendering leaves scopes alone: the caller's scope is what it was, and no part of a template writes a
frame around its own.
-/

namespace Templating

namespace Rendering

theorem ne_noScope_of_isLocal (failure : Failure) (isLocal : failure.IsLocal) :
    failure ≠ .noScope := by
  rintro rfl
  exact isLocal

theorem insertion_scope (settings : Settings) (includes : Dictionary (List Node)) (left : Nat)
    (inclusions : List Node.Inclusion) :
    InsertsConfined (· ≠ .noScope) (insertion settings includes left) inclusions :=
  fun _ _ bindings position => insertion_confined ne_noScope_of_isLocal (fun _ => True)
    (fun _ _ _ => Failure.noConfusion) (fun _ _ _ _ _ _ => trivial) left trivial bindings position

end Rendering

namespace Resolved

open Rendering

theorem whole_scope (resolved : Resolved) (settings : Settings) :
    Confined (Node.boundBody true resolved.body) (· ≠ .noScope) (whole settings resolved) :=
  body_confined ne_noScope_of_isLocal resolved.body (insertion_scope settings _ _ _)

/-- Quoting a source line makes no failure of another kind. -/
theorem eq_of_quoteSource_eq (resolved : Resolved) {failure quoted : Failure}
    (placeless : ∀ fault, quoted ≠ .fault fault) (same : resolved.quoteSource failure = quoted) :
    failure = quoted := by
  cases failure with
  | fault located => exact absurd same.symm (placeless _)
  | _ => exact same

/-- A rendering leaves the scope that the whole template leaves, and fails as it does. -/
theorem renderIn_whole (resolved : Resolved) (settings : Settings) (scope : Scope) :
    ∃ outcome canvas, whole settings resolved { scope := scope } = (outcome, canvas) ∧
      (resolved.renderIn settings scope).2 = canvas.scope ∧
      ∀ failure, (resolved.renderIn settings scope).1 = .error failure →
        ∃ cause, outcome = .error cause ∧ resolved.quoteSource cause = failure := by
  cases run : whole settings resolved { scope := scope } with
  | mk outcome canvas =>
      refine ⟨outcome, canvas, rfl, ?_⟩
      cases outcome with
      | ok =>
          have rendered : resolved.renderIn settings scope = (.ok canvas.output, canvas.scope) := by
            simp [renderIn, ExceptT.run, run]
          rw [rendered]
          exact ⟨rfl, fun failure same => by cases same⟩
      | error cause =>
          have rendered : resolved.renderIn settings scope =
              (.error (resolved.quoteSource cause), canvas.scope) := by
            simp [renderIn, ExceptT.run, run]
          rw [rendered]
          exact ⟨rfl, fun failure same => ⟨cause, rfl, Except.error.inj same⟩⟩

/-- A failure without a place comes from the whole template itself. -/
theorem renderIn_fails {resolved : Resolved} {settings : Settings} {names : List String}
    {excluded : Failure} (placeless : ∀ fault, excluded ≠ .fault fault)
    (confined : Confined names (· ≠ excluded) (whole settings resolved)) (scope : Scope) :
    (resolved.renderIn settings scope).1 ≠ .error excluded := by
  obtain ⟨outcome, canvas, run, _, causes⟩ := resolved.renderIn_whole settings scope
  intro failed
  obtain ⟨cause, rfl, quoted⟩ := causes excluded failed
  exact confined.fails _ cause canvas run (resolved.eq_of_quoteSource_eq placeless quoted)

/-- The frame over the caller's scope is taken away again, and nothing below it has changed. -/
theorem renderUnder_eq (resolved : Resolved) (settings : Settings) (scope : Scope) :
    resolved.renderUnder settings scope =
      ((resolved.renderIn settings (scope.push [])).1, scope) := by
  obtain ⟨outcome, canvas, run, left, _⟩ := resolved.renderIn_whole settings (scope.push [])
  have restored := ((resolved.whole_scope settings).scope _ outcome canvas run).pop?
  rw [← left] at restored
  simp only [renderUnder, restored]

/-- A rendering leaves the caller's scope as it was. Every node in it keeps all frames but the
innermost one, where it sets only names that are bound at its own level, and no frame is taken away
from a scope that has only its root. -/
theorem render_confined (resolved : Resolved) (settings : Settings) :
    (∀ scope, (resolved.renderUnder settings scope).2 = scope ∧
      (resolved.renderUnder settings scope).1 ≠ .error .noScope) ∧
    ∀ left node canvas outcome after,
      Rendering.node settings (insertion settings resolved.includes left) node canvas =
        (outcome, after) →
      outcome ≠ .error .noScope ∧ after.scope.depth = canvas.scope.depth ∧
      ∃ inner outer writes, canvas.scope.frames = inner :: outer ∧
        after.scope.frames = Dictionary.update inner writes :: outer ∧
        ∀ write ∈ writes, write.1 ∈ node.bound true := by
  refine ⟨fun scope => ?_, fun left node canvas outcome after run => ?_⟩
  · rw [resolved.renderUnder_eq]
    exact ⟨rfl, renderIn_fails (fun _ => Failure.noConfusion) (resolved.whole_scope settings) _⟩
  have confined : Confined (node.bound true) (· ≠ .noScope)
      (Rendering.node settings (insertion settings resolved.includes left) node) :=
    node_confined ne_noScope_of_isLocal node (insertion_scope settings resolved.includes left _)
  obtain ⟨inner, outer, writes, before, written, known⟩ := confined.scope canvas outcome after run
  refine ⟨?_, ?_, inner, outer, writes, before, written, known⟩
  · rintro rfl
    exact confined.fails canvas .noScope after run rfl
  · have lengths := (congrArg List.length written).trans (congrArg List.length before).symm
    simpa [Scope.frames, Scope.depth] using lengths

/-- What stands for a loop without turns is rendered without a frame of its own, so that it binds
names around the loop. -/
theorem turnless_loop_binds : ¬ ∀ (settings : Settings) (includes : Dictionary (List Node))
    (left : Nat) (node : Node) (canvas : Canvas) (outcome : Except Failure Unit) (after : Canvas),
      Rendering.node settings (insertion settings includes left) node canvas = (outcome, after) →
      canvas.scope.Writes (node.bound false) after.scope := by
  intro confined
  obtain ⟨inner, outer, writes, before, written, known⟩ := confined {} [] 0
    (.loop ["x"] (.list [] none) [] (some [.binding "a" (.literal (.int 1) none) none]) none)
    { scope := .ofFrame [] } (.ok ()) { scope := .ofFrame [("a", .int 1)] } rfl
  cases before
  cases writes with
  | nil => cases written
  | cons write writes => cases known write List.mem_cons_self

end Resolved

end Templating
