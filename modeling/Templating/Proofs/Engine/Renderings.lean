import Templating.Engine
import Templating.Proofs.Rendering.Paired

/-!
Renderings by engines: what they depend on of the caller's values, and how the treatment of
variables without a value may change them. A scope renders as its frames merged into one, since a
rendering asks a scope for the meanings of names only.
-/

namespace Templating

namespace Origin

/-- What a name means to a rendering that starts from here. -/
def lookup? : Origin → String → Option Value
  | .frame values, name => Dictionary.get? values name
  | .scope caller, name => caller.lookup? name

/-- The scope that a rendering from here works in. -/
def start : Origin → Scope
  | .frame values => .ofFrame values
  | .scope caller => caller.push []

theorem lookup?_start (origin : Origin) (name : String) :
    origin.start.lookup? name = origin.lookup? name := by
  cases origin with
  | frame values =>
      rw [start, lookup?, Scope.lookup?, Scope.frames, Scope.ofFrame, List.nil_append,
        List.findSome?_singleton]
  | scope caller =>
      rw [start, Scope.lookup?_push]
      rfl

end Origin

namespace Settings.Paired

/-- Settings are paired with themselves, and nothing is cut off. -/
theorem refl (settings : Settings) : settings.Paired (fun _ => False) settings :=
  ⟨rfl, rfl, fun _ _ _ => .refl _, .inl rfl⟩

end Settings.Paired

namespace Engine

open Outcome (Curtails)

theorem renderResolved_eq (engine : Engine) (resolved : Resolved) (origin : Origin)
    (session : Session) :
    engine.renderResolved resolved origin session =
      ((resolved.renderIn engine.settings origin.start).1, session) := by
  cases origin with
  | frame values => rfl
  | scope caller =>
      exact congrArg (fun rendered => (rendered.1, session))
        (resolved.renderUnder_eq engine.settings caller)

theorem renderResolved_paired {cut further : Failure → Prop} {first second : Engine}
    (paired : first.settings.Paired cut second.settings) {resolved : Resolved}
    (quoted : ∀ failure, cut failure → further (resolved.quoteSource failure)) {here there : Origin}
    (agree : ∀ name ∈ resolved.mentions, here.lookup? name = there.lookup? name)
    (session : Session) :
    Curtails further (first.renderResolved resolved here session).1
      (second.renderResolved resolved there session).1 := by
  rw [renderResolved_eq, renderResolved_eq]
  have agrees : here.start.Agrees (· ∈ resolved.mentions) there.start := by
    intro name mentioned
    rw [here.lookup?_start, there.lookup?_start]
    exact agree name mentioned
  exact Resolved.renderIn_paired paired (fun _ => id) quoted agrees

/-- Of the caller's values only those matter that the template mentions: if each of these names
means the same or nothing in both, the renderings end alike, also in failure. -/
theorem renderResolved_mentioned (engine : Engine) {resolved : Resolved} {here there : Origin}
    (agree : ∀ name ∈ resolved.mentions, here.lookup? name = there.lookup? name)
    (session : Session) :
    engine.renderResolved resolved here session = engine.renderResolved resolved there session := by
  have outcome : (engine.renderResolved resolved here session).1 =
      (engine.renderResolved resolved there session).1 := by
    have curtails : Curtails (fun _ => False) (engine.renderResolved resolved here session).1
        (engine.renderResolved resolved there session).1 :=
      renderResolved_paired (.refl engine.settings) (fun _ => id) agree session
    rcases curtails with ⟨_, _, no⟩ | same
    · exact no.elim
    · exact same
  rw [renderResolved_eq, renderResolved_eq] at outcome ⊢
  exact congrArg (·, session) outcome

/-- A page with a cell for every row. -/
def cellPage : Resolved where
  name := "page"
  body := [.loop ["row"] (.reference "rows" [] none)
    [.output (.reference "loop" [.key "index"] none) none, .inclusion "cell" none none] none none]
  includes := [("cell", [.output (.reference "row" [] none) none])]

/-- The page mentions its rows and what its loop binds. -/
theorem renderResolved_mentioned_cells :
    renderResolved {} cellPage
        (.frame [("rows", .sequence .list [.int 7, .int 8]), ("token", .int 1)]) {} =
      renderResolved {} cellPage
        (.scope ⟨[("rows", .null)], [[("rows", .sequence .list [.int 7, .int 8])]]⟩) {} := by
  refine renderResolved_mentioned {} (fun name mentioned => ?_) {}
  have names : cellPage.mentions = ["rows", "loop", "row"] := rfl
  rw [names] at mentioned
  simp only [List.mem_cons, List.not_mem_nil, or_false] at mentioned
  rcases mentioned with rfl | rfl | rfl <;> rfl

/-- The same engine with this treatment of variables without a value. -/
def withUndefined (engine : Engine) (mode : UndefinedMode) : Engine :=
  { engine with options := { engine.options with undefined := mode } }

end Engine

/-- The failure says that a variable has no value. -/
def Failure.IsUndefined (failure : Failure) : Prop :=
  ∃ path position source, failure = .fault ⟨.rendering (.undefinedVariable path), position, source⟩

theorem Resolved.quoteSource_isUndefined (resolved : Resolved) {failure : Failure}
    (undefined : failure.IsUndefined) : (resolved.quoteSource failure).IsUndefined := by
  obtain ⟨path, position, source, rfl⟩ := undefined
  obtain ⟨snippet, quoted⟩ := resolved.quoteSource_fault _
  exact ⟨path, position, snippet, quoted⟩

theorem Expr.missing_curtails (name : String) (path : List Segment) (position : Option Position) :
    Outcome.Curtails Failure.IsUndefined (missing .strict name path position)
      (missing .lenient name path position) :=
  .error ⟨_, _, _, rfl⟩

namespace Engine

/-- If variables without a value are errors, a rendering ends in such an error or exactly as it does
when they are null: no value that is there depends on how missing ones are treated. -/
theorem renderResolved_strict (engine : Engine) (resolved : Resolved) (origin : Origin)
    (session : Session) :
    Outcome.Curtails Failure.IsUndefined
      ((engine.withUndefined .strict).renderResolved resolved origin session).1
      ((engine.withUndefined .lenient).renderResolved resolved origin session).1 := by
  have paired : (engine.withUndefined .strict).settings.Paired Failure.IsUndefined
      (engine.withUndefined .lenient).settings :=
    ⟨rfl, rfl, Expr.missing_curtails, .inl rfl⟩
  exact renderResolved_paired paired (fun _ => resolved.quoteSource_isUndefined) (fun _ _ => rfl)
    session

end Engine

namespace Scope

/-- No frame has two entries of one name. -/
def Distinct (scope : Scope) : Prop :=
  ∀ frame ∈ scope.frames, (Dictionary.names frame).Nodup

theorem get?_merged {frames : List Frame}
    (distinct : ∀ frame ∈ frames, (Dictionary.names frame).Nodup) (name : String) :
    Dictionary.get? (frames.reverse.foldl Dictionary.update []) name =
      frames.findSome? fun frame => Dictionary.get? frame name := by
  rw [List.foldl_reverse]
  induction frames with
  | nil => rfl
  | cons frame rest ih =>
      obtain ⟨here, others⟩ := List.forall_mem_cons.mp distinct
      rw [List.foldr_cons, Dictionary.get?_update here, ih others, List.findSome?_cons]
      cases Dictionary.get? frame name <;> rfl

/-- The merged frames give a name what the innermost frame that has it gives. -/
theorem get?_bindings {scope : Scope} (distinct : scope.Distinct) (name : String) :
    Dictionary.get? scope.bindings name = scope.lookup? name :=
  get?_merged distinct name

end Scope

namespace Resolved

/-- A rendering depends on a scope only by what the names mean in it. -/
theorem renderIn_agrees (resolved : Resolved) (settings : Settings) {left right : Scope}
    (agree : ∀ name, left.lookup? name = right.lookup? name) :
    (resolved.renderIn settings left).1 = (resolved.renderIn settings right).1 := by
  have agrees : left.Agrees (fun _ => True) right := fun name _ => agree name
  have curtails : Outcome.Curtails (fun _ => False) (resolved.renderIn settings left).1
      (resolved.renderIn settings right).1 :=
    renderIn_paired (.refl settings) (fun _ _ => trivial) (fun _ => id) agrees
  obtain ⟨_, _, never⟩ | same := curtails
  · exact never.elim
  · exact same

/-- It does not matter whether the caller's scope is passed as it is or as one frame of all that can
be seen in it: the renderings end alike, also in failure. -/
theorem render_bindings (resolved : Resolved) (settings : Settings) {scope : Scope}
    (distinct : scope.Distinct) :
    (resolved.renderUnder settings scope).1 = resolved.render settings scope.bindings := by
  rw [renderUnder_eq, render]
  apply renderIn_agrees
  intro name
  rw [Scope.lookup?_push, ← Scope.get?_bindings distinct]
  simp [Dictionary.get?, Scope.lookup?, Scope.frames, Scope.ofFrame]

/-- A page that binds one name again, for itself and in an inclusion. -/
def totalPage : Resolved where
  name := "page"
  body := [
    .binding "total" (.binary (.arithmetic .add) (.reference "total" [] none)
      (.reference "price" [] none) none) none,
    .loop ["price"] (.reference "prices" [] none) [.inclusion "cell" none none] none none,
    .output (.reference "total" [] none) none]
  includes := [("cell", [
    .binding "total" (.reference "price" [] none) none,
    .output (.reference "total" [] none) none])]

theorem render_bindings_total :
    let scope : Scope := ⟨[("price", .int 1), ("total", .int 0)],
      [[("prices", .list [.int 3, .int 4])], [("price", .int 2)]]⟩
    scope.Distinct ∧ (totalPage.renderUnder {} scope).1 = totalPage.render {} scope.bindings ∧
      totalPage.render {} scope.bindings = .ok "342" := by
  have distinct : Scope.Distinct ⟨[("price", .int 1), ("total", .int 0)],
      [[("prices", .list [.int 3, .int 4])], [("price", .int 2)]]⟩ := by
    simp [Scope.Distinct, Scope.frames, Dictionary.names]
  exact ⟨distinct, render_bindings totalPage {} distinct, by decide +kernel⟩

end Resolved

end Templating
