import Templating.Proofs.Inheritance.Inclusions
import Templating.Proofs.Rendering.Failures
import Templating.Proofs.Run
import Templating.Proofs.Shells
import Templating.Rendering

/-!
What a rendering does to the scope, whether it succeeds or fails: of all frames it writes only the
innermost one, and there it sets only names that directives bind at the level of the nodes.
-/

namespace Templating

namespace Node

mutual

/-- The names that directives set in a node at its own level, so not in bodies that are rendered in
a frame or a scope of their own. What stands for a loop without turns is at the level of the loop:
it is counted if asked for. -/
def bound (turnless : Bool) : Node → List String
  | binding name _ _ => [name]
  | condition _ body branches otherwise _ =>
    boundBody turnless body ++ boundBranches turnless branches ++ boundOption turnless otherwise
  | loop _ _ _ otherwise _ => if turnless then boundOption turnless otherwise else []
  | block _ body _ => boundBody turnless body
  | _ => []

def boundBody (turnless : Bool) : List Node → List String
  | [] => []
  | node :: rest => bound turnless node ++ boundBody turnless rest

def boundBranch (turnless : Bool) : Branch → List String
  | .mk _ body _ => boundBody turnless body

def boundBranches (turnless : Bool) : List Branch → List String
  | [] => []
  | branch :: rest => boundBranch turnless branch ++ boundBranches turnless rest

def boundOption (turnless : Bool) : Option (List Node) → List String
  | none => []
  | some body => boundBody turnless body

end

end Node

namespace Scope

/-- One scope is the other after some of these names have been set in its innermost frame. -/
def Writes (names : List String) (before after : Scope) : Prop :=
  ∃ inner outer settings, before.frames = inner :: outer ∧
    after.frames = Dictionary.update inner settings :: outer ∧
    ∀ setting ∈ settings, setting.1 ∈ names

theorem frames_injective {left right : Scope} (same : left.frames = right.frames) :
    left = right := by
  obtain ⟨root, inner⟩ := left
  obtain ⟨root', inner'⟩ := right
  obtain ⟨rfl, single⟩ := List.append_inj' same rfl
  cases single
  rfl

theorem exists_frames (scope : Scope) : ∃ inner outer, scope.frames = inner :: outer := by
  obtain ⟨root, inner⟩ := scope
  cases inner with
  | nil => exact ⟨root, [], rfl⟩
  | cons frame rest => exact ⟨frame, rest ++ [root], rfl⟩

namespace Writes

variable {names others : List String} {first second third : Scope}

theorem refl (names : List String) (scope : Scope) : Writes names scope scope := by
  obtain ⟨inner, outer, frames⟩ := scope.exists_frames
  exact ⟨inner, outer, [], frames, frames, List.forall_mem_nil _⟩

theorem trans (left : Writes names first second) (right : Writes names second third) :
    Writes names first third := by
  obtain ⟨inner, outer, settings, before, between, known⟩ := left
  obtain ⟨_, _, further, again, after, knownFurther⟩ := right
  rw [between] at again
  cases again
  refine ⟨inner, outer, settings ++ further, before, ?_,
    List.forall_mem_append.mpr ⟨known, knownFurther⟩⟩
  rw [after, Dictionary.update, Dictionary.update, Dictionary.update, List.foldl_append]

theorem mono (writes : Writes names first second) (subset : names ⊆ others) :
    Writes others first second := by
  obtain ⟨inner, outer, settings, before, after, known⟩ := writes
  exact ⟨inner, outer, settings, before, after, fun setting member => subset (known setting member)⟩

/-- Where no name may be set, the scope stays. -/
theorem eq_of_nil (writes : Writes [] first second) : second = first := by
  obtain ⟨inner, outer, settings, before, after, none⟩ := writes
  cases settings with
  | nil => exact frames_injective (after.trans before.symm)
  | cons setting settings => exact absurd (none setting List.mem_cons_self) List.not_mem_nil

theorem set (scope : Scope) (name : String) (value : Value) :
    Writes [name] scope (scope.set name value) := by
  obtain ⟨root, inner⟩ := scope
  cases inner with
  | nil => exact ⟨root, [], [(name, value)], rfl, rfl, by simp⟩
  | cons frame rest => exact ⟨frame, rest ++ [root], [(name, value)], rfl, rfl, by simp⟩

/-- A frame that was pushed can be taken away again, and the scope is what it was. -/
theorem pop? {scope after : Scope} {frame : Frame} (writes : Writes names (scope.push frame) after) :
    after.pop? = some scope := by
  obtain ⟨inner, outer, settings, before, frames, _⟩ := writes
  cases before
  obtain ⟨root, inner⟩ := after
  cases inner with
  | nil =>
      have lengths := congrArg List.length frames
      simp [Scope.frames] at lengths
  | cons frame rest =>
      rw [Scope.pop?]
      exact congrArg some (frames_injective (List.cons.inj frames).2)

end Writes

end Scope

namespace Rendering

theorem evaluate_eq (settings : Settings) (expr : Expr) (canvas : Canvas) :
    evaluate settings expr canvas = (expr.eval settings canvas.scope, canvas) :=
  rfl

/-- The frame is taken away again if there is another one below it. -/
theorem within_eq {frame : Frame} {inside : Rendering Unit} {before canvas : Canvas}
    {outcome : Except Failure Unit}
    (inner : inside { before with scope := before.scope.push frame } = (outcome, canvas)) :
    within frame inside before =
      match canvas.scope.pop? with
      | some scope => (outcome, { canvas with scope := scope })
      | none => (.error .noScope, canvas) := by
  cases popped : canvas.scope.pop? <;> simp [within, ExceptT.run, ExceptT.mk, inner, popped]

/-- The scope around is put back, whatever comes of the rendering in a scope of its own. -/
theorem apart_run {frame : Frame} {inside : Rendering Unit} {before canvas : Canvas}
    {outcome : Except Failure Unit}
    (inner : inside { before with scope := .ofFrame frame } = (outcome, canvas)) :
    apart frame inside before = (outcome, { canvas with scope := before.scope }) := by
  simp [apart, ExceptT.run, ExceptT.mk, inner]

/-- Whether the run succeeds or fails, it sets only these names in the innermost frame, and it fails
only in ways that are allowed. -/
structure Confined {α : Type} (names : List String) (allowed : Failure → Prop)
    (run : Rendering α) : Prop where
  scope : ∀ before outcome after, run before = (outcome, after) →
    Scope.Writes names before.scope after.scope
  fails : ∀ before failure after, run before = (.error failure, after) → allowed failure

namespace Confined

variable {α β : Type} {names others : List String} {allowed : Failure → Prop} {run : Rendering α}
  {next : α → Rendering β}

theorem mono (confined : Confined names allowed run) (subset : names ⊆ others) :
    Confined others allowed run where
  scope before outcome after same := (confined.scope before outcome after same).mono subset
  fails := confined.fails

theorem ofNil (confined : Confined [] allowed run) : Confined names allowed run :=
  confined.mono (List.nil_subset names)

theorem pure (value : α) : Confined names allowed (pure value : Rendering α) where
  scope before outcome after same := by
    cases same
    exact .refl names _
  fails before failure after same := by cases same

theorem throw {failure : Failure} (holds : allowed failure) :
    Confined names allowed (throw failure : Rendering α) where
  scope before outcome after same := by
    cases same
    exact .refl names _
  fails before other after same := by
    cases same
    exact holds

theorem bind (confined : Confined names allowed run)
    (continues : ∀ value, Confined names allowed (next value)) :
    Confined names allowed (run >>= next) where
  scope before outcome after same := by
    cases first : run before with
    | mk result between =>
        have start := confined.scope before result between first
        cases result with
        | ok value =>
            rw [Run.bind_ok first] at same
            exact start.trans ((continues value).scope between outcome after same)
        | error failure =>
            rw [Run.bind_error first] at same
            cases same
            exact start
  fails before failure after same := by
    cases first : run before with
    | mk result between =>
        cases result with
        | ok value =>
            rw [Run.bind_ok first] at same
            exact (continues value).fails between failure after same
        | error cause =>
            rw [Run.bind_error first] at same
            cases same
            exact confined.fails before failure after first

theorem forM {items : List α} {action : α → Rendering PUnit}
    (each : ∀ item, Confined names allowed (action item)) :
    Confined names allowed (items.forM action) := by
  induction items with
  | nil => exact pure _
  | cons item items ih => exact bind (each item) fun _ => ih

theorem write (text : String) : Confined names allowed (write text) where
  scope before outcome after same := by
    cases same
    exact .refl names _
  fails before failure after same := by cases same

/-- A run around another one that puts the scope back leaves it as it is. -/
theorem around {outer inside : Rendering Unit} (confined : Confined names allowed inside)
    (steps : ∀ before outcome after, outer before = (outcome, after) →
      ∃ start canvas, inside start = (outcome, canvas) ∧ after.scope = before.scope) :
    Confined [] allowed outer where
  scope before outcome after same := by
    obtain ⟨_, _, _, restored⟩ := steps before outcome after same
    rw [restored]
    exact .refl [] before.scope
  fails before failure after same := by
    obtain ⟨start, canvas, inner, _⟩ := steps before (.error failure) after same
    exact confined.fails start failure canvas inner

/-- The frame is taken away again, whatever comes of the rendering under it. -/
theorem within_run {frame : Frame} {inside : Rendering Unit} (confined : Confined names allowed inside)
    {before canvas : Canvas} {outcome : Except Failure Unit}
    (inner : inside { before with scope := before.scope.push frame } = (outcome, canvas)) :
    Rendering.within frame inside before = (outcome, { canvas with scope := before.scope }) := by
  have popped := (confined.scope _ _ _ inner).pop?
  simp [Rendering.within, ExceptT.run, ExceptT.mk, inner, popped]

theorem within {frame : Frame} {inside : Rendering Unit} (confined : Confined names allowed inside) :
    Confined [] allowed (Rendering.within frame inside) := by
  refine confined.around fun before outcome after same => ?_
  cases inner : inside { before with scope := before.scope.push frame } with
  | mk result canvas =>
      rw [confined.within_run inner] at same
      cases same
      exact ⟨_, canvas, inner, rfl⟩

theorem apart {frame : Frame} {inside : Rendering Unit} (confined : Confined names allowed inside) :
    Confined [] allowed (Rendering.apart frame inside) := by
  refine confined.around fun before outcome after same => ?_
  cases inner : inside { before with scope := .ofFrame frame } with
  | mk result canvas =>
      rw [apart_run inner] at same
      cases same
      exact ⟨_, canvas, inner, rfl⟩

/-- Reading the scope changes nothing. -/
theorem ofScope (compute : Scope → Except Failure α)
    (fails : ∀ scope, Outcome.Fails (compute scope) allowed) :
    Confined names allowed (ExceptT.mk fun canvas => (compute canvas.scope, canvas) : Rendering α)
    where
  scope before outcome after same := by
    cases same
    exact .refl names _
  fails before failure after same := fails before.scope failure (Prod.mk.inj same).1

end Confined

/-- What may be included, and how: by the name of the template, the bindings and the place. -/
abbrev Includable :=
  String → Option (List (String × Expr)) → Option Position → Prop

/-- The failures that a node adds to those of its bodies and of its expressions are allowed, and what
it includes is includable. -/
def Adds (allowed : Failure → Prop) (includable : Includable) : Node → Prop
  | .output _ _ => allowed .noText
  | .loop targets iterable _ _ position =>
    (∀ type, allowed (.blamed (.notIterable type) (iterable.position.or position))) ∧
      (targets = [] → allowed .noTarget)
  | .inclusion name bindings position => includable name bindings position
  | _ => True

/-- The failures that a node adds to those of its bodies are allowed. -/
structure Admits (settings : Settings) (allowed : Failure → Prop) (includable : Includable)
    (node : Node) : Prop where
  exprs : ∀ expr ∈ node.exprs, ∀ scope, Outcome.Fails (expr.eval settings scope) allowed
  adds : Adds allowed includable node

section

variable {settings : Settings} {insert : Insertion} {allowed : Failure → Prop}
  {includable others : Includable}

theorem admits_shell {node : Node} :
    Admits settings allowed includable node.shell ↔ Admits settings allowed includable node := by
  have own : Adds allowed includable node.shell ↔ Adds allowed includable node := by
    cases node <;> rfl
  constructor
  · rintro ⟨exprs, adds⟩
    exact ⟨node.exprs_shell ▸ exprs, own.mp adds⟩
  · rintro ⟨exprs, adds⟩
    exact ⟨node.exprs_shell.symm ▸ exprs, own.mpr adds⟩

theorem Admits.mono {node : Node} (admits : Admits settings allowed includable node)
    (weaker : ∀ name bindings position, node = .inclusion name bindings position →
      includable name bindings position → others name bindings position) :
    Admits settings allowed others node := by
  obtain ⟨exprs, adds⟩ := admits
  refine ⟨exprs, ?_⟩
  cases node with
  | inclusion name bindings position => exact weaker name bindings position rfl adds
  | text | output | condition | loop | binding | block | parent => exact adds

theorem evaluate_confined {names : List String} {expr : Expr}
    (fails : ∀ scope, Outcome.Fails (expr.eval settings scope) allowed) :
    Confined names allowed (evaluate settings expr) :=
  .ofScope (fun scope => expr.eval settings scope) fails

/-- This insertion leaves the scope as it is and fails only in ways that are allowed. -/
def Inserts (allowed : Failure → Prop) (insert : Insertion) : Includable :=
  fun name bindings position => Confined [] allowed (insert name bindings position)

mutual

theorem node_admitted : ∀ node : Node,
    node.Throughout (Admits settings allowed (Inserts allowed insert)) →
      Confined (node.bound true) allowed (Rendering.node settings insert node)
  | .text content _, _ => .write content
  | .output expr _, all => by
    obtain ⟨exprs, noText⟩ := admits_shell.mp (Node.throughout_iff.mp all).1
    rw [Rendering.node]
    refine .bind (evaluate_confined (exprs expr List.mem_cons_self)) fun value => ?_
    split
    · exact .write _
    · exact .throw noText
  | .condition test content branches otherwise _, all => by
    obtain ⟨here, inside⟩ := Node.throughout_iff.mp all
    obtain ⟨exprs, _⟩ := admits_shell.mp here
    obtain ⟨first, others⟩ := List.forall_mem_cons.mp exprs
    obtain ⟨body, further⟩ := List.forall_mem_cons.mp inside
    obtain ⟨bodies, rest⟩ := List.forall_mem_append.mp further
    rw [Rendering.node, Node.bound]
    refine .bind (evaluate_confined first) fun value => ?_
    split
    · exact (body_admitted content body).mono (by simp)
    · have tests := firstBranch_admitted branches (List.forall_mem_map.mp others)
        (List.forall_mem_map.mp bodies)
      refine .bind (tests.mono (by simp)) fun taken => ?_
      split
      · exact .pure _
      · exact (option_admitted otherwise rest).mono (by simp)
  | .loop targets iterable content otherwise position, all => by
    obtain ⟨here, inside⟩ := Node.throughout_iff.mp all
    obtain ⟨exprs, notIterable, noTarget⟩ := admits_shell.mp here
    obtain ⟨body, rest⟩ := List.forall_mem_cons.mp inside
    rw [Rendering.node, Node.bound, if_pos rfl]
    refine .bind (evaluate_confined (exprs iterable List.mem_cons_self)) fun value => ?_
    split
    · exact .throw (notIterable _)
    · exact option_admitted otherwise rest
    · have turn (frame : Frame) :
          Confined [] allowed (within frame (Rendering.body settings insert content)) :=
        (body_admitted content body).within
      split
      case isTrue none =>
        exact .bind (.throw (noTarget (List.isEmpty_iff.mp none))) fun _ =>
          .forM fun frame => (turn frame).ofNil
      · exact .forM fun frame => (turn frame).ofNil
  | .binding name value _, all => by
    obtain ⟨exprs, _⟩ := admits_shell.mp (Node.throughout_iff.mp all).1
    rw [Rendering.node]
    refine .bind (evaluate_confined (exprs value List.mem_cons_self)) fun value => ⟨?_, ?_⟩
    · intro before outcome after same
      cases same
      exact .set before.scope name value
    · intro before failure after same
      cases same
  | .block _ content _, all => by
    rw [Rendering.node, Node.bound]
    exact body_admitted content (List.forall_mem_singleton.mp (Node.throughout_iff.mp all).2)
  | .parent _ _, _ => .pure _
  | .inclusion name bindings position, all => by
    rw [Rendering.node]
    exact (admits_shell.mp (Node.throughout_iff.mp all).1).adds.ofNil

theorem body_admitted : ∀ nodes : List Node,
    Node.BodyThroughout (Admits settings allowed (Inserts allowed insert)) nodes →
      Confined (Node.boundBody true nodes) allowed (body settings insert nodes)
  | [], _ => .pure _
  | first :: rest, all => by
    obtain ⟨here, others⟩ := Node.bodyThroughout_cons.mp all
    rw [body, Node.boundBody]
    exact .bind ((node_admitted first here).mono (by simp)) fun _ =>
      (body_admitted rest others).mono (by simp)

theorem branch_admitted : ∀ tested : Branch,
    (∀ scope, Outcome.Fails (tested.test.eval settings scope) allowed) →
      Node.BodyThroughout (Admits settings allowed (Inserts allowed insert)) tested.body →
        Confined (Node.boundBranch true tested) allowed (branch settings insert tested)
  | .mk test content _, fails, all => by
    rw [branch]
    refine .bind (evaluate_confined fails) fun value => ?_
    split
    · exact .bind (body_admitted content all) fun _ => .pure _
    · exact .pure _

theorem firstBranch_admitted : ∀ branches : List Branch,
    (∀ tested ∈ branches, ∀ scope, Outcome.Fails (tested.test.eval settings scope) allowed) →
      (∀ tested ∈ branches,
        Node.BodyThroughout (Admits settings allowed (Inserts allowed insert)) tested.body) →
        Confined (Node.boundBranches true branches) allowed (firstBranch settings insert branches)
  | [], _, _ => .pure _
  | first :: rest, fails, all => by
    obtain ⟨failsFirst, failsRest⟩ := List.forall_mem_cons.mp fails
    obtain ⟨here, others⟩ := List.forall_mem_cons.mp all
    rw [firstBranch, Node.boundBranches]
    refine .bind ((branch_admitted first failsFirst here).mono (by simp)) fun taken => ?_
    split
    · exact .pure _
    · exact (firstBranch_admitted rest failsRest others).mono (by simp)

theorem option_admitted : ∀ content : Option (List Node),
    (∀ nodes ∈ content.toList,
      Node.BodyThroughout (Admits settings allowed (Inserts allowed insert)) nodes) →
      Confined (Node.boundOption true content) allowed (option settings insert content)
  | none, _ => .pure _
  | some content, all => by
    rw [option]
    exact body_admitted content (List.forall_mem_singleton.mp all)

end

/-- What an inclusion needs: a name that is known. It may fail for want of the template, and of a
level of inclusions. -/
structure Insertable (settings : Settings) (includes : Dictionary (List Node))
    (known : String → Prop) (allowed : Failure → Prop) (name : String)
    (position : Option Position) : Prop where
  known : known name
  absent : includes.get? name = none → allowed (.unresolved name)
  room : allowed (.blamed (.tooDeep settings.options.depth) position)

/-- The names may be any, as long as what they include is named by them as well. -/
theorem insertion_admitted {includes : Dictionary (List Node)} {known : String → Prop}
    (contents : ∀ name content, known name → includes.get? name = some content →
      Node.BodyThroughout (Admits settings allowed fun name _ position =>
        Insertable settings includes known allowed name position) content) (left : Nat)
    {name : String} {bindings : Option (List (String × Expr))} {position : Option Position}
    (insertable : Insertable settings includes known allowed name position)
    (values : ∀ pair ∈ bindings.getD [], ∀ scope,
      Outcome.Fails (pair.2.eval settings scope) allowed) :
    Confined [] allowed (insertion settings includes left name bindings position) := by
  induction left generalizing name bindings position with
  | zero =>
      rw [insertion]
      split
      · rename_i absent
        exact .throw (insertable.absent absent)
      · exact .throw insertable.room
  | succ left ih =>
      rw [insertion]
      split
      · rename_i absent
        exact .throw (insertable.absent absent)
      · rename_i content found
        have inside : Confined (Node.boundBody true content) allowed
            (body settings (insertion settings includes left) content) := by
          refine body_admitted content fun shell member => ?_
          have admits := contents name content insertable.known found shell member
          refine admits.mono fun other pairs place same further => ih further ?_
          rw [same] at admits
          exact fun pair among => admits.exprs pair.2 (List.mem_map_of_mem among)
        cases bindings with
        | none => exact inside.within
        | some pairs =>
            exact .bind (.ofScope (fun scope => Expr.evalNamed settings scope pairs) fun scope =>
              Expr.evalNamed_admitted fun pair member => values pair member scope)
              fun values => inside.apart

section

variable (locals : ∀ failure : Failure, failure.IsLocal → allowed failure)

include locals

theorem eval_confined (expr : Expr) (scope : Scope) :
    Outcome.Fails (expr.eval settings scope) allowed :=
  fun failure same => locals failure (Expr.eval_fails settings scope expr failure same)

/-- Where all local failures are allowed, only what is included matters. -/
theorem admits_of_locals {node : Node} (included : ∀ name bindings position,
    node = .inclusion name bindings position → includable name bindings position) :
    Admits settings allowed includable node := by
  refine ⟨fun expr _ scope => eval_confined locals expr scope, ?_⟩
  cases node with
  | output => exact locals _ trivial
  | loop => exact ⟨fun _ => locals _ trivial, fun _ => locals _ trivial⟩
  | inclusion name bindings position => exact included name bindings position rfl
  | text | condition | binding | block | parent => exact trivial

/-- Inclusions of these templates leave the scope as it is and fail only in ways that are
allowed. -/
def InsertsConfined (allowed : Failure → Prop) (insert : Insertion)
    (inclusions : List Node.Inclusion) : Prop :=
  ∀ inclusion ∈ inclusions, ∀ bindings position,
    Confined [] allowed (insert inclusion.name bindings position)

theorem node_confined (node : Node) (inserts : InsertsConfined allowed insert node.inclusions) :
    Confined (node.bound true) allowed (Rendering.node settings insert node) := by
  refine node_admitted node fun shell member => admits_of_locals locals ?_
  rintro name bindings position rfl
  exact inserts _ (Node.mem_inclusions_of_shells member) bindings position

theorem body_confined (nodes : List Node)
    (inserts : InsertsConfined allowed insert (Node.bodyInclusions nodes)) :
    Confined (Node.boundBody true nodes) allowed (body settings insert nodes) := by
  refine body_admitted nodes fun shell member => admits_of_locals locals ?_
  rintro name bindings position rfl
  exact inserts _ (Node.mem_bodyInclusions_of_shells member) bindings position

/-- The same where all local failures are allowed. -/
theorem insertion_confined {includes : Dictionary (List Node)} (known : String → Prop)
    (present : ∀ name, known name → includes.get? name = none → allowed (.unresolved name))
    (closed : ∀ name content, known name → includes.get? name = some content →
      ∀ inclusion ∈ Node.bodyInclusions content, known inclusion.name) (left : Nat)
    {name : String} (start : known name) (bindings : Option (List (String × Expr)))
    (position : Option Position) :
    Confined [] allowed (insertion settings includes left name bindings position) := by
  have insertable {name : String} (start : known name) (position : Option Position) :
      Insertable settings includes known allowed name position :=
    ⟨start, present name start, locals _ trivial⟩
  refine insertion_admitted (fun name content start found shell member => ?_) left
    (insertable start position) fun pair _ scope => eval_confined locals pair.2 scope
  refine admits_of_locals locals ?_
  rintro other pairs place rfl
  exact insertable (closed name content start found _
    (Node.mem_bodyInclusions_of_shells member)) place

end

end

end Rendering

end Templating
