import Templating.Evaluation
import Templating.Inheritance
import Templating.Text.Escape

/-!
Output of resolved templates. The first error ends a rendering; the scope is left as it was found
in any case.
-/

namespace Templating

/-- What a rendering changes: the scope and the output so far. -/
structure Canvas where
  scope : Scope
  output : String := ""
deriving Repr, Inhabited

abbrev Rendering := ExceptT Failure (StateM Canvas)

namespace Rendering

def write (text : String) : Rendering Unit :=
  modify fun canvas => { canvas with output := canvas.output ++ text }

def evaluate (settings : Settings) (expr : Expr) : Rendering Value := do
  liftExcept (expr.eval settings (← get).scope)
where
  liftExcept {α : Type} (outcome : Except Failure α) : Rendering α :=
    ExceptT.mk (pure outcome)

/-- Renders under a frame of its own, which is taken away also after an error. -/
def within (frame : Frame) (body : Rendering Unit) : Rendering Unit :=
  ExceptT.mk fun canvas =>
    let (outcome, after) := body.run { canvas with scope := canvas.scope.push frame }
    match after.scope.pop? with
    | some scope => (outcome, { after with scope := scope })
    | none => (.error .noScope, after)

/-- Renders in a scope of its own, from which nothing around is seen. -/
def apart (frame : Frame) (body : Rendering Unit) : Rendering Unit :=
  ExceptT.mk fun canvas =>
    let (outcome, after) := body.run { canvas with scope := .ofFrame frame }
    (outcome, { after with scope := canvas.scope })

/-- Safe text is written as it is; other values are written by their text, escaped if asked. -/
def shown (escape : EscapeMode) : Value → String
  | .string text true => text
  | value =>
    match escape with
    | .html => Text.escapeMarkup value.toText
    | .none => value.toText

/-- What each turn of a loop binds with one target, or with two. -/
def turns? : Value → Option (List (Value × Value × Value))
  | .mapping entries =>
    some (entries.map fun entry => (entry.1.toValue, entry.1.toValue, entry.2))
  | .sequence _ items =>
    some (items.mapIdx fun index item => (item, .int index, item))
  | _ => none

/-- What a loop tells about a turn. -/
def loopRecord (index length : Nat) : Value :=
  .mapping [
    (.string "index" false, .int index),
    (.string "is_first" false, .bool (index == 0)),
    (.string "is_last" false, .bool (index + 1 == length)),
    (.string "length" false, .int length)]

/-- The frame of one turn; a target may hide the record. -/
def turnFrame (targets : List String) (length index : Nat) (turn : Value × Value × Value) :
    Frame :=
  let start : Frame := [("loop", loopRecord index length)]
  match targets with
  | [first, second] => (start.set first turn.2.1).set second turn.2.2
  | first :: _ => start.set first turn.1
  | [] => start

def turnFrames (targets : List String) (turns : List (Value × Value × Value)) : List Frame :=
  turns.mapIdx (turnFrame targets turns.length)

/-- How an inclusion is rendered: by the name of the template, the bindings and the place. -/
abbrev Insertion :=
  String → Option (List (String × Expr)) → Option Position → Rendering Unit

def throwAt (cause : RenderCause) (position : Option Position) : Rendering Unit :=
  throw (.blamed cause position)

mutual

def node (settings : Settings) (insert : Insertion) : Node → Rendering Unit
  | .text content _ => write content
  | .output expr _ => do
    let value ← evaluate settings expr
    if value.hasText then write (shown settings.options.escape value) else throw .noText
  | .condition test content branches otherwise _ => do
    if (← evaluate settings test).isTruthy then body settings insert content
    else if ← firstBranch settings insert branches then return ()
    else option settings insert otherwise
  | .loop targets iterable content otherwise position => do
    let value ← evaluate settings iterable
    match turns? value with
    | none => throwAt (.notIterable value.typeName) (iterable.position.or position)
    | some [] => option settings insert otherwise
    | some turns =>
      if targets.isEmpty then throw .noTarget
      (turnFrames targets turns).forM fun frame => within frame (body settings insert content)
  | .binding name value _ => do
    let value ← evaluate settings value
    modify fun canvas => { canvas with scope := canvas.scope.set name value }
  | .block _ content _ => body settings insert content
  | .parent .. => return ()
  | .inclusion name bindings position => insert name bindings position

def body (settings : Settings) (insert : Insertion) : List Node → Rendering Unit
  | [] => return ()
  | first :: rest => do
    node settings insert first
    body settings insert rest

/-- Renders a branch if its test holds, and tells whether it does. -/
def branch (settings : Settings) (insert : Insertion) : Branch → Rendering Bool
  | .mk test content _ => do
    if (← evaluate settings test).isTruthy then
      body settings insert content
      return true
    else return false

def firstBranch (settings : Settings) (insert : Insertion) : List Branch → Rendering Bool
  | [] => return false
  | first :: rest => do
    if ← branch settings insert first then return true else firstBranch settings insert rest

def option (settings : Settings) (insert : Insertion) : Option (List Node) → Rendering Unit
  | none => return ()
  | some content => body settings insert content

end

/-- Renders an inclusion when so many levels of inclusions are left. Without bindings it sees the
scope around it, with bindings only these. -/
def insertion (settings : Settings) (includes : Dictionary (List Node)) : Nat → Insertion
  | left, name, bindings, position => do
    match includes.get? name with
    | none => throw (.unresolved name)
    | some content =>
      match left with
      | 0 => throwAt (.tooDeep settings.options.depth) position
      | left + 1 =>
        let inside := body settings (insertion settings includes left) content
        match bindings with
        | none => within [] inside
        | some pairs =>
          let values ← ExceptT.mk fun canvas =>
            (Expr.evalNamed settings canvas.scope pairs, canvas)
          apart (Dictionary.ofList values) inside

def whole (settings : Settings) (resolved : Resolved) : Rendering Unit :=
  body settings (insertion settings resolved.includes settings.options.depth) resolved.body

end Rendering

namespace Resolved

/-- Quotes the source line of an error from the templates that were put together. -/
def quoteSource (resolved : Resolved) : Failure → Failure
  | .fault fault => .fault (fault.attach resolved.sources.get?)
  | failure => failure

/-- Renders in the scope itself, and gives what it is afterwards. -/
def renderIn (resolved : Resolved) (settings : Settings) (scope : Scope) :
    Except Failure String × Scope :=
  let (outcome, canvas) := (Rendering.whole settings resolved).run { scope := scope }
  match outcome with
  | .ok _ => (.ok canvas.output, canvas.scope)
  | .error failure => (.error (resolved.quoteSource failure), canvas.scope)

/-- Renders with these values. -/
def render (resolved : Resolved) (settings : Settings) (values : Frame) :
    Except Failure String :=
  (resolved.renderIn settings (.ofFrame values)).1

/-- Renders in a scope derived from the caller's, and gives what the caller's is afterwards. -/
def renderUnder (resolved : Resolved) (settings : Settings) (scope : Scope) :
    Except Failure String × Scope :=
  let (outcome, after) := resolved.renderIn settings (scope.push [])
  match after.pop? with
  | some scope => (outcome, scope)
  | none => (.error .noScope, after)

end Resolved

end Templating
