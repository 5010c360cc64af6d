import Mathlib.Logic.Relation
import Templating.Rendering

/-!
Renderings in small steps. What is left to do is a stack of tasks, and the inclusions that are being
rendered are counted. After an error only what was put aside is put back.
-/

namespace Templating

namespace Rendering

/-- What is left to do for a part of a template, or to put back behind it. -/
inductive Task where
  | nodes (rest : List Node)
  | branches (rest : List Branch) (otherwise : Option (List Node))
  | turns (frames : List Frame) (content : List Node)
  /-- Takes the frame of a turn away. -/
  | turned
  /-- Ends an inclusion that sees the scope around it: puts the count back and takes its frame away. -/
  | shared (next : Node.Inclusion) (saved : Nat)
  /-- Ends an inclusion in a scope of its own: puts back the count and the scope around it. -/
  | own (next : Node.Inclusion) (saved : Nat) (scope : Scope)

/-- The inclusion that a task ends. -/
def Task.inclusion? : Task → Option Node.Inclusion
  | shared next _ | own next _ _ => some next
  | _ => none

/-- How far a rendering is, and how the last thing that was done has ended. -/
structure Point where
  work : List Task
  canvas : Canvas
  depth : Nat := 0
  outcome : Except Failure Unit := .ok ()

namespace Point

/-- The directives whose templates are being rendered, the innermost first. -/
def enclosing (point : Point) : List Node.Inclusion :=
  point.work.filterMap Task.inclusion?

def push (point : Point) (task : Task) : Point :=
  { point with work := task :: point.work }

def start (resolved : Resolved) (scope : Scope) : Point :=
  push { work := [], canvas := { scope := scope } } (.nodes resolved.body)

def fail (point : Point) (failure : Failure) : Point :=
  { point with outcome := .error failure }

def perform (point : Point) (action : Rendering Unit) : Point :=
  { point with canvas := (action point.canvas).2, outcome := (action point.canvas).1 }

def under (point : Point) (frame : Frame) : Point :=
  { point with canvas := { point.canvas with scope := point.canvas.scope.push frame } }

def popped (point : Point) : Point :=
  match point.canvas.scope.pop? with
  | some scope => { point with canvas := { point.canvas with scope := scope } }
  | none => point.fail .noScope

end Point

section

variable (settings : Settings) (includes : Dictionary (List Node))

/-- The scope that an included template sees. -/
def insideScope (scope : Scope) : Option (List (String × Expr)) → Except Failure Scope
  | none => .ok (scope.push [])
  | some pairs => (Expr.evalNamed settings scope pairs).map fun values =>
      .ofFrame (Dictionary.ofList values)

def ending (point : Point) (next : Node.Inclusion) : Option (List (String × Expr)) → Task
  | none => .shared next point.depth
  | some _ => .own next point.depth point.canvas.scope

/-- Starts with the template that a directive includes, unless the limit is reached. -/
def enterInclusion (point : Point) (name : String) (bindings : Option (List (String × Expr)))
    (position : Option Position) : Point :=
  match includes.get? name with
  | none => point.fail (.unresolved name)
  | some content =>
    if settings.options.depth ≤ point.depth then
      point.fail (.blamed (.tooDeep settings.options.depth) position)
    else
      match insideScope settings point.canvas.scope bindings with
      | .error failure => point.fail failure
      | .ok scope =>
        { point with
          work := .nodes content :: ending point ⟨name, position⟩ bindings :: point.work
          canvas := { point.canvas with scope := scope }
          depth := point.depth + 1 }

def enter (point : Point) : Node → Point
  | .text content _ => point.perform (write content)
  | .output expr _ => point.perform do
    let value ← evaluate settings expr
    if value.hasText then write (shown settings.options.escape value) else throw .noText
  | .condition test content branches otherwise position =>
    point.push (.branches (.mk test content position :: branches) otherwise)
  | .loop targets iterable content otherwise position =>
    match iterable.eval settings point.canvas.scope with
    | .error failure => point.fail failure
    | .ok value =>
      match turns? value with
      | none =>
        point.fail (.blamed (.notIterable value.typeName) (iterable.position.or position))
      | some [] => point.push (.nodes (otherwise.getD []))
      | some turns =>
        if targets.isEmpty then point.fail .noTarget
        else point.push (.turns (turnFrames targets turns) content)
  | .binding name value _ => point.perform do
    let value ← evaluate settings value
    modify fun canvas => { canvas with scope := canvas.scope.set name value }
  | .block _ content _ => point.push (.nodes content)
  | .parent .. => point
  | .inclusion name bindings position =>
    enterInclusion settings includes point name bindings position

/-- Puts back what a task has put aside. -/
def Task.restore (point : Point) : Task → Point
  | turned => point.popped
  | shared _ saved => { point with depth := saved }.popped
  | own _ saved scope =>
    { point with depth := saved, canvas := { point.canvas with scope := scope } }
  | _ => point

def Task.resume (point : Point) : Task → Point
  | nodes [] => point
  | nodes (node :: rest) => enter settings includes (point.push (.nodes rest)) node
  | branches [] otherwise => point.push (.nodes (otherwise.getD []))
  | branches (.mk test content _ :: rest) otherwise =>
    match test.eval settings point.canvas.scope with
    | .error failure => point.fail failure
    | .ok value =>
      if value.isTruthy then point.push (.nodes content) else point.push (.branches rest otherwise)
  | turns [] _ => point
  | turns (frame :: frames) content =>
    (((point.push (.turns frames content)).push .turned).push (.nodes content)).under frame
  | task => task.restore point

/-- The next point, unless nothing is left to do. -/
def step (point : Point) : Option Point :=
  match point.work with
  | [] => none
  | task :: others =>
    match point.outcome with
    | .ok () => some (task.resume settings includes { point with work := others })
    | .error _ => some (task.restore { point with work := others })

/-- One point comes to the other in some number of steps. -/
abbrev Reaches : Point → Point → Prop :=
  Relation.ReflTransGen fun point next => step settings includes point = some next

end

/-- The points of a rendering. -/
abbrev Reached (settings : Settings) (resolved : Resolved) (scope : Scope) : Point → Prop :=
  Reaches settings resolved.includes (.start resolved scope)

end Rendering

end Templating
