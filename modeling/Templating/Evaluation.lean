import Templating.Expr
import Templating.Filter.Registry
import Templating.Options
import Templating.Scope

/-!
Values of expressions in a scope. The first error ends the evaluation and is blamed on the
expression that brought it about.
-/

namespace Templating

/-- What a rendering needs besides the template and the scope. -/
structure Settings where
  filters : Registry := .builtin
  options : Options := {}

/-- How a use of templates can fail: for a cause with a place in a template, for a template that
cannot be loaded, for a whole number that is too large for floating point or too long to be
written, or in a way that no compiled template and no built-in filter shows, such as an operator
that the language lacks. -/
inductive Failure where
  | fault (fault : Fault)
  | notFound (name : String)
  | overflow
  | unknownBinary (symbol : String)
  | unknownUnary (symbol : String)
  | unresolved (name : String)
  | noScope
  | noTarget
  | noText
  | host (name : String)
deriving DecidableEq, Repr

namespace Failure

/-- The words of a failure that has a message. -/
def message? : Failure → Option String
  | fault located => some located.cause.message
  | notFound name => some ("Template not found: '" ++ name ++ "'")
  | unknownBinary symbol => some ("Unknown binary operator: " ++ symbol)
  | unknownUnary symbol => some ("Unknown unary operator: " ++ symbol)
  | unresolved name => some ("Include '" ++ name ++ "' was not resolved")
  | noScope => some noScopeMessage
  | overflow | noTarget | noText | host _ => none

def blamed (cause : RenderCause) (position : Option Position) : Failure :=
  .fault ⟨.rendering cause, position, ""⟩

def ofOperation (position : Option Position) : OperationFailure → Failure
  | .cause cause => .blamed (.operation cause) position
  | .overflow => .overflow

def ofFilter (position : Option Position) : FilterFailure → Failure
  | .refusal refusal => .blamed (.filterArgument refusal.message) position
  | .operation failure => .ofOperation position failure
  | .noText => .noText
  | .host name => .host name

end Failure

namespace Value

/-- One step into a value. Texts have no parts, and indexes do not count from the end. -/
def member? (value : Value) (segment : Segment) : Option Value :=
  match value, segment with
  | mapping entries, .key name => valueAt? entries (.string name false)
  | sequence _ items, .index position => if 0 ≤ position then items[position.toNat]? else none
  | _, _ => none

/-- Follows a path; when a step fails, gives the path up to and including it. -/
def follow (value : Value) (taken : List Segment) :
    List Segment → Except (List Segment) Value
  | [] => .ok value
  | segment :: rest =>
    match value.member? segment with
    | some next => next.follow (taken ++ [segment]) rest
    | none => .error (taken ++ [segment])

end Value

namespace Expr

def missing (mode : UndefinedMode) (name : String) (path : List Segment)
    (position : Option Position) : Except Failure Value :=
  match mode with
  | .lenient => .ok .null
  | .strict => .error (.blamed (.undefinedVariable (dotted name path)) position)

def evalReference (mode : UndefinedMode) (scope : Scope) (name : String) (path : List Segment)
    (position : Option Position) : Except Failure Value :=
  match scope.lookup? name with
  | none => missing mode name [] position
  | some value =>
    match value.follow [] path with
    | .ok found => .ok found
    | .error taken => missing mode name taken position

/-- Operators that always take both operands. -/
def evalBinary (operator : BinaryOperator) (left right : Value) (position : Option Position) :
    Except Failure Value :=
  let decided (result : Except OperationCause Bool) : Except Failure Value :=
    match result with
    | .ok value => .ok (.bool value)
    | .error cause => .error (.blamed (.operation cause) position)
  match operator with
  | .equal => .ok (.bool (left.equal right))
  | .unequal => .ok (.bool !left.equal right)
  | .compare comparison => decided (Value.compare comparison left right)
  | .member => decided (right.contains left)
  | .arithmetic operator =>
    match Value.arithmetic operator left right with
    | .ok value => .ok value
    | .error failure => .error (.ofOperation position failure)
  | .and => .error (.unknownBinary operator.symbol)
  | .or => .error (.unknownBinary operator.symbol)
  | .unknown symbol => .error (.unknownBinary symbol)

def evalUnary (operator : UnaryOperator) (operand : Value) (position : Option Position) :
    Except Failure Value :=
  match operator with
  | .not => .ok (.bool !operand.isTruthy)
  | .negate =>
    match operand.negate with
    | .ok value => .ok value
    | .error cause => .error (.blamed (.operation cause) position)
  | .unknown symbol => .error (.unknownUnary symbol)

def applyFilter (filter : Filter) (name : String) (value : Value) (positional : List Value)
    (named : Dictionary Value) (position : Option Position) : Except Failure Value :=
  match filter.apply name value positional named with
  | .ok result => .ok result
  | .error failure => .error (.ofFilter position failure)

mutual

/-- `and` and `or` give one of their operands and need the right one only when the left one does
not decide. A filter is looked up before its arguments are evaluated. -/
def eval (settings : Settings) (scope : Scope) : Expr → Except Failure Value
  | literal value _ => .ok value
  | reference name path position =>
    evalReference settings.options.undefined scope name path position
  | list items _ => do return .list (← evalAll settings scope items)
  | binary .and left right _ => do
    let first ← eval settings scope left
    if first.isTruthy then eval settings scope right else return first
  | binary .or left right _ => do
    let first ← eval settings scope left
    if first.isTruthy then return first else eval settings scope right
  | binary operator left right position => do
    let first ← eval settings scope left
    let second ← eval settings scope right
    evalBinary operator first second position
  | unary operator operand position => do
    evalUnary operator (← eval settings scope operand) position
  | filter base name arguments named position =>
    match settings.filters.find? name with
    | none => .error (.blamed (.unknownFilter name) position)
    | some found => do
      let value ← eval settings scope base
      let positional ← evalAll settings scope arguments
      let named ← evalNamed settings scope named
      applyFilter found name value positional (Dictionary.ofList named) position

def evalAll (settings : Settings) (scope : Scope) : List Expr → Except Failure (List Value)
  | [] => .ok []
  | item :: items => do
    let first ← eval settings scope item
    return first :: (← evalAll settings scope items)

def evalNamed (settings : Settings) (scope : Scope) :
    List (String × Expr) → Except Failure (List (String × Value))
  | [] => .ok []
  | (name, value) :: rest => do
    let first ← eval settings scope value
    return (name, first) :: (← evalNamed settings scope rest)

end

end Expr

end Templating
