import Templating.Sorting
import Templating.Value.Text

/-!
Data interchange text of a value, with the fields of mappings in order of their keys. Unlike the
text of collections in the output, this refuses what the format has no form for.
-/

namespace Templating

inductive JsonRefusal where
  | unordered (left right : String)
  | key (className : String)
  | value (className : String)
  | tooLong
deriving DecidableEq, Repr

namespace JsonRefusal

def message : JsonRefusal → String
  | unordered left right =>
    "'<' not supported between instances of '" ++ left ++ "' and '" ++ right ++ "'"
  | key className => "keys must be str, int, float, bool or None, not " ++ className
  | value className => "Object of type " ++ className ++ " is not JSON serializable"
  | tooLong => "the number has too many digits"

end JsonRefusal

namespace Key

def className (key : Key) : String :=
  key.toValue.className

mutual

/-- Numbers, with truth values among them, texts and tuples are ordered, each among themselves. -/
def less : Key → Key → Except JsonRefusal Bool
  | string left _, string right _ => .ok (left < right)
  | tuple left, tuple right => lessItems left right
  | left, right =>
    match left.number?, right.number? with
    | some l, some r => .ok (l.less r)
    | _, _ => .error (.unordered left.className right.className)

/-- The first items that differ decide, and a tuple comes before its continuations. -/
def lessItems : List Key → List Key → Except JsonRefusal Bool
  | [], rights => .ok !rights.isEmpty
  | _ :: _, [] => .ok false
  | left :: lefts, right :: rights =>
    if left.same right then lessItems lefts rights else left.less right

end

end Key

namespace Number

def json (value : Number) : Except JsonRefusal String :=
  if value.hasText then .ok (value.text .interchange) else .error .tooLong

end Number

namespace Key

/-- The name of the field for a key. -/
def fieldName : Key → Except JsonRefusal String
  | null => .ok "null"
  | bool value => .ok (jsonBool value)
  | number value => value.json
  | string text _ => .ok text
  | key => .error (.key key.className)

end Key

namespace Value

/-- A field is refused for its name before its content. -/
def jsonField (field : Key × Except JsonRefusal String) : Except JsonRefusal (String × String) :=
  do return (← field.1.fieldName, ← field.2)

mutual

def json : Value → Except JsonRefusal String
  | null => .ok "null"
  | bool value => .ok (jsonBool value)
  | number value => value.json
  | string text _ => .ok (jsonString text)
  | sequence _ items => (jsonItems items).map jsonArray
  | mapping entries => do
    let sorted ← Sorting.sortM (fun left right => left.1.less right.1) (jsonEntries entries)
    return jsonObject (← sorted.mapM jsonField)
  | host object => .error (.value object.className)

def jsonItems : List Value → Except JsonRefusal (List String)
  | [] => .ok []
  | item :: items => do
    let first ← item.json
    return first :: (← jsonItems items)

def jsonEntries : List (Key × Value) → List (Key × Except JsonRefusal String)
  | [] => []
  | (key, value) :: rest => (key, value.json) :: jsonEntries rest

end

end Value

end Templating
