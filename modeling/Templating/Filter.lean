import Templating.Fault
import Templating.Value.Json
import Templating.Value.Operation

/-!
Filters: functions on a value with arguments by position and by name. A signature says which
arguments a filter takes, and binding matches given arguments with it before the filter runs.
-/

namespace Templating

inductive ParameterKind where
  | ordinary
  /-- Takes all further arguments by position. -/
  | rest
  | namedOnly
  /-- Takes all named arguments that no other parameter takes. -/
  | restNamed
deriving DecidableEq, Repr

structure Parameter where
  name : String
  kind : ParameterKind := .ordinary
  fallback : Option Value := none
deriving Repr

abbrev Signature := List Parameter

inductive ArityCause where
  | tooManyPositional
  | missing (name : String)
  | unexpected (name : String)
  | twice (name : String)
deriving DecidableEq, Repr

namespace ArityCause

def message : ArityCause → String
  | tooManyPositional => "too many positional arguments"
  | missing name => "missing a required argument: " ++ Text.quoted name
  | unexpected name => "got an unexpected keyword argument " ++ Text.quoted name
  | twice name => "multiple values for argument " ++ Text.quoted name

end ArityCause

/-- Why a filter rejects its input or its arguments. -/
inductive FilterRefusal where
  | arity (filter : String) (cause : ArityCause)
  | input (filter wanted found : String)
  | separator
  | replacement
  | truncation
  | precision
  | mixedSort
  | unroundable (shown : String)
  | inconvertible (filter shown : String)
  | unserializable (cause : JsonRefusal)
  | custom (message : String)
deriving DecidableEq, Repr

namespace FilterRefusal

def message : FilterRefusal → String
  | arity filter cause => "filter '" ++ filter ++ "': " ++ cause.message
  | input filter wanted found =>
    "filter '" ++ filter ++ "' requires " ++ wanted ++ " input, got " ++ found
  | separator => "filter 'join' requires a string separator"
  | replacement => "filter 'replace' requires string arguments"
  | truncation => "filter 'truncate' requires a non-negative integer length"
  | precision => "filter 'round' requires an integer precision"
  | mixedSort => "filter 'sort' requires all numbers or all strings"
  | unroundable shown => "filter 'round' cannot round " ++ shown
  | inconvertible filter shown => "filter '" ++ filter ++ "' cannot convert " ++ shown
  | unserializable cause => "filter 'json' cannot serialize value: " ++ cause.message
  | custom message => message

end FilterRefusal

/-- How a filter can fail: it refuses, an operation fails, or a value has no text. Only a filter of
the embedding program fails in a way of its own, which has a name there. -/
inductive FilterFailure where
  | refusal (refusal : FilterRefusal)
  | operation (failure : OperationFailure)
  | noText
  | host (name : String)
deriving DecidableEq, Repr

/-- Arguments matched with parameters; every parameter that takes one value has one. -/
structure Bound where
  values : List (String × Value) := []
  rest : List Value := []
  restNamed : List (String × Value) := []
deriving Repr

namespace Bound

def value (bound : Bound) (name : String) : Value :=
  (bound.values.lookup name).getD .null

def bind (bound : Bound) (name : String) (value : Value) : Bound :=
  { bound with values := bound.values ++ [(name, value)] }

end Bound

namespace Signature

/-- Matches arguments by position, as far as they go, and leaves the other parameters. -/
def bindPositional (named : List (String × Value)) :
    List Parameter → List Value → Bound → Except ArityCause (Bound × List Parameter)
  | parameters, [], bound => .ok (bound, parameters)
  | [], _ :: _, _ => .error .tooManyPositional
  | parameter :: parameters, argument :: arguments, bound =>
    match parameter.kind with
    | .namedOnly | .restNamed => .error .tooManyPositional
    | .rest => .ok ({ bound with rest := argument :: arguments }, parameters)
    | .ordinary =>
      if (named.lookup parameter.name).isSome then .error (.twice parameter.name)
      else bindPositional named parameters arguments (bound.bind parameter.name argument)

/-- Matches the other parameters by name, or with their fallbacks. -/
def bindNamed : List Parameter → List (String × Value) → Bound →
    Except ArityCause (Bound × List (String × Value))
  | [], named, bound => .ok (bound, named)
  | parameter :: parameters, named, bound =>
    if parameter.kind = .rest || parameter.kind = .restNamed then
      bindNamed parameters named bound
    else match named.lookup parameter.name, parameter.fallback with
      | some argument, _ =>
        bindNamed parameters (named.filter (·.1 != parameter.name))
          (bound.bind parameter.name argument)
      | none, some fallback => bindNamed parameters named (bound.bind parameter.name fallback)
      | none, none => .error (.missing parameter.name)

/-- Matches arguments with a signature. Names that no parameter has go to the parameter for
further names, if there is one. -/
def bind (signature : Signature) (positional : List Value) (named : List (String × Value)) :
    Except ArityCause Bound := do
  let (bound, others) ← bindPositional named signature positional {}
  let (bound, further) ← bindNamed others named bound
  match further with
  | [] => return bound
  | (name, _) :: _ =>
    if signature.any (·.kind == .restNamed) then return { bound with restNamed := further }
    else throw (.unexpected name)

end Signature

structure Filter where
  signature : Signature
  run : Bound → Except FilterFailure Value

namespace Filter

/-- Applies a filter under a name. The piped value is its first argument. -/
def apply (filter : Filter) (name : String) (value : Value) (positional : List Value)
    (named : List (String × Value)) : Except FilterFailure Value :=
  match filter.signature.bind (value :: positional) named with
  | .error cause => .error (.refusal (.arity name cause))
  | .ok bound => filter.run bound

end Filter

end Templating
