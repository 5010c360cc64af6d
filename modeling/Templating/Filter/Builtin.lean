import Templating.Filter
import Templating.Number.Numeral
import Templating.Text.Case
import Templating.Text.Character
import Templating.Text.Escape

/-!
The built-in filters.
-/

namespace Templating

namespace Builtin

abbrev Result := Except FilterFailure Value

def refuse {α : Type} (refusal : FilterRefusal) : Except FilterFailure α :=
  .error (.refusal refusal)

def text (content : String) : Value :=
  .string content

def requireText (filter : String) : Value → Except FilterFailure String
  | .string content _ => .ok content
  | value => refuse (.input filter "string" value.typeName)

def requireNumber (filter : String) : Value → Except FilterFailure Number
  | .number value => .ok value
  | value => refuse (.input filter "number" value.typeName)

/-- A text counts as the sequence of its characters. -/
def requireItems (filter : String) : Value → Except FilterFailure (List Value)
  | .string content _ => .ok (content.toList.map fun c => text c.toString)
  | .sequence _ items => .ok items
  | value => refuse (.input filter "sequence" value.typeName)

def written (value : Value) : Except FilterFailure String :=
  if value.hasText then .ok value.toText else .error .noText

def safe (value : Value) : Result := do
  return .string (← written value) true

def escape : Value → Result
  | .string content true => .ok (.string content true)
  | value => do return .string (Text.escapeMarkup (← written value)) true

def onText (filter : String) (change : String → String) (value : Value) : Result := do
  return text (change (← requireText filter value))

def length : Value → Result
  | .string content _ => .ok (.int content.length)
  | .sequence _ items => .ok (.int items.length)
  | .mapping entries => .ok (.int entries.length)
  | value => refuse (.input "length" "string or collection" value.typeName)

def join (value separator : Value) : Result := do
  let items ← requireItems "join" value
  match separator with
  | .string between _ => return text (between.intercalate (← items.mapM written))
  | _ => refuse .separator

def default (value fallback : Value) : Result :=
  match value with
  | .null => .ok fallback
  | value => .ok value

def first (value : Value) : Result := do
  return (← requireItems "first" value).head?.getD .null

def last (value : Value) : Result := do
  return (← requireItems "last" value).getLast?.getD .null

def reverse : Value → Result
  | .string content _ => .ok (text (String.ofList content.toList.reverse))
  | .sequence _ items => .ok (.list items.reverse)
  | value => refuse (.input "reverse" "sequence" value.typeName)

/-- Numbers by size, texts by code points; anything else is not less than anything. -/
def precedes (left right : Value) : Bool :=
  match left, right with
  | .number l, .number r => l.less r
  | .string l _, .string r _ => decide (l < r)
  | _, _ => false

def sort : Value → Result
  | .string content _ =>
    .ok (text (String.ofList (Sorting.sort (fun a b => decide (a < b)) content.toList)))
  | .sequence _ items =>
    if items.all Value.isNumber || items.all (·.text?.isSome) then
      .ok (.list (Sorting.sort precedes items))
    else refuse .mixedSort
  | value => refuse (.input "sort" "sequence" value.typeName)

def replace (value old new : Value) : Result := do
  let content ← requireText "replace" value
  match old, new with
  | .string old _, .string new _ => return text (Text.replace old new content)
  | _, _ => refuse .replacement

/-- A text that is short enough stays as it is, also if it is safe. -/
def truncate (value length suffix : Value) : Result := do
  let content ← requireText "truncate" value
  match length with
  | .number (.int length) =>
    if length < 0 then refuse .truncation
    else if content.length ≤ length.toNat then return value
    else
      return text (String.ofList (content.toList.take length.toNat) ++ (← written suffix))
  | _ => refuse .truncation

def abs (value : Value) : Result := do
  return .number (← requireNumber "abs" value).abs

def round (value digits : Value) : Result := do
  let number ← requireNumber "round" value
  match digits with
  | .number (.int digits) =>
    match number.round? digits with
    | some rounded => return .number rounded
    | none => refuse (.unroundable (number.text .plain))
  | _ => refuse .precision

def converted (filter : String) (value : Value) : Option Number → Result
  | some number => .ok (.number number)
  | none =>
    if value.hasText then refuse (.inconvertible filter value.quoted) else .error .noText

/-- A text is read as a decimal first, so it may have a fraction, which is dropped. -/
def int (value : Value) : Result :=
  match value with
  | .string content _ =>
    converted "int" value (((Numeral.decimal? content).bind (·.truncate?)).map .int)
  | value => do
    let number ← requireNumber "int" value
    converted "int" value (number.truncate?.map .int)

def float (value : Value) : Result :=
  match value with
  | .string content _ => converted "float" value ((Numeral.decimal? content).map .float)
  | value => do
    let number ← requireNumber "float" value
    converted "float" value (number.toBinary?.map .float)

def string : Value → Result
  | .string content safe => .ok (.string content safe)
  | value => do return text (← written value)

def keys : Value → Result
  | .mapping entries => .ok (.list (entries.map (·.1.toValue)))
  | value => refuse (.input "keys" "mapping" value.typeName)

def values : Value → Result
  | .mapping entries => .ok (.list (entries.map (·.2)))
  | value => refuse (.input "values" "mapping" value.typeName)

def json (value : Value) : Result :=
  match value.json with
  | .ok content => .ok (text content)
  | .error .tooLong => .error .noText
  | .error cause => refuse (.unserializable cause)

def prepend (value before : Value) : Result := do
  return text ((← written before) ++ (← written value))

def append (value after : Value) : Result := do
  return text ((← written value) ++ (← written after))

def valueOnly : Signature := [{ name := "value" }]

def plain (run : Value → Result) : Filter :=
  { signature := valueOnly, run := fun bound => run (bound.value "value") }

def withOne (parameter : Parameter) (run : Value → Value → Result) : Filter :=
  { signature := valueOnly ++ [parameter]
    run := fun bound => run (bound.value "value") (bound.value parameter.name) }

def withTwo (one two : Parameter) (run : Value → Value → Value → Result) : Filter :=
  { signature := valueOnly ++ [one, two]
    run := fun bound => run (bound.value "value") (bound.value one.name) (bound.value two.name) }

def optional (name : String) (fallback : Value) : Parameter :=
  { name := name, fallback := some fallback }

def filters : Dictionary Filter := [
  ("safe", plain safe),
  ("escape", plain escape),
  ("upper", plain (onText "upper" Text.upper)),
  ("lower", plain (onText "lower" Text.lower)),
  ("capitalize", plain (onText "capitalize" Text.capitalize)),
  ("title", plain (onText "title" Text.title)),
  ("trim", plain (onText "trim" Text.trim)),
  ("length", plain length),
  ("join", withOne (optional "separator" (text "")) join),
  ("default", withOne (optional "fallback" (text "")) default),
  ("first", plain first),
  ("last", plain last),
  ("reverse", plain reverse),
  ("sort", plain sort),
  ("replace", withTwo { name := "old" } { name := "new" } replace),
  ("truncate", withTwo (optional "length" (.int 80)) (optional "suffix" (text "...")) truncate),
  ("abs", plain abs),
  ("round", withOne (optional "digits" (.int 0)) round),
  ("int", plain int),
  ("float", plain float),
  ("string", plain string),
  ("keys", plain keys),
  ("values", plain values),
  ("json", plain json),
  ("prepend", withOne { name := "text" } prepend),
  ("append", withOne { name := "text" } append)]

end Builtin

end Templating
