import Templating.Number

/-!
Values of the template language, and the keys of its mappings.
-/

namespace Templating

/-- An object that is known only by its texts, such as one that the embedding program passes in. Two
are the same only by identity. `shown` is how messages quote it. -/
structure HostObject where
  identity : Nat
  className : String
  text : String
  shown : String := "<" ++ className ++ " object>"
deriving DecidableEq, Repr, Inhabited

inductive SequenceKind where
  | list | tuple
deriving DecidableEq, Repr, Inhabited

/-- The values that can be keys: those that cannot change. -/
inductive Key where
  | null
  | bool (value : Bool)
  | number (value : Number)
  | string (text : String) (safe : Bool)
  | tuple (items : List Key)
  | host (object : HostObject)
deriving Repr, Inhabited

/-- A safe string is exempt from escaping. A mapping keeps the order of insertion. -/
inductive Value where
  | null
  | bool (value : Bool)
  | number (value : Number)
  | string (text : String) (safe : Bool := false)
  | sequence (kind : SequenceKind) (items : List Value)
  | mapping (entries : List (Key × Value))
  | host (object : HostObject)
deriving Repr, Inhabited

namespace Key

/-- Keys compare a truth value as the number one or zero. -/
def number? : Key → Option Number
  | bool value => some (.int (if value then 1 else 0))
  | number value => some value
  | _ => none

mutual

/-- Whether two keys name the same entry. -/
def same : Key → Key → Bool
  | null, null => true
  | bool left, right => ((bool left).number?.map fun l => right.number?.any l.equal).getD false
  | number left, right => right.number?.any left.same
  | string left _, string right _ => left == right
  | tuple left, tuple right => sameAll left right
  | host left, host right => left.identity == right.identity
  | _, _ => false

def sameAll : List Key → List Key → Bool
  | [], [] => true
  | left :: lefts, right :: rights => left.same right && sameAll lefts rights
  | _, _ => false

end

mutual

def toValue : Key → Value
  | null => .null
  | bool value => .bool value
  | number value => .number value
  | string text safe => .string text safe
  | tuple items => .sequence .tuple (toValues items)
  | host object => .host object

def toValues : List Key → List Value
  | [] => []
  | item :: items => item.toValue :: toValues items

end

end Key

/-- Entries of a mapping, by key. -/
def valueAt? (entries : List (Key × Value)) (key : Key) : Option Value :=
  (entries.find? fun entry => entry.1.same key).map (·.2)

/-- A new key goes to the end; a known one keeps its place and its first spelling. -/
def setEntry (entries : List (Key × Value)) (key : Key) (value : Value) : List (Key × Value) :=
  if entries.any (·.1.same key) then
    entries.map fun entry => if entry.1.same key then (entry.1, value) else entry
  else entries ++ [(key, value)]

namespace Value

abbrev int (value : Int) : Value := .number (.int value)

abbrev float (value : Binary64) : Value := .number (.float value)

abbrev list (items : List Value) : Value := .sequence .list items

def ofEntries (pairs : List (Key × Value)) : Value :=
  .mapping (pairs.foldl (fun entries pair => setEntry entries pair.1 pair.2) [])

def isNumber : Value → Bool
  | number _ => true
  | _ => false

def isSequence : Value → Bool
  | sequence .. => true
  | _ => false

def isMapping : Value → Bool
  | mapping _ => true
  | _ => false

def text? : Value → Option String
  | string text _ => some text
  | _ => none

mutual

/-- Lists and mappings can change, so neither they nor a tuple that holds one can be keys. -/
def toKey? : Value → Option Key
  | null => some .null
  | bool value => some (.bool value)
  | number value => some (.number value)
  | string text safe => some (.string text safe)
  | sequence .tuple items => (toKeys? items).map .tuple
  | sequence .list _ => none
  | mapping _ => none
  | host object => some (.host object)

def toKeys? : List Value → Option (List Key)
  | [] => some []
  | item :: items =>
    match item.toKey?, toKeys? items with
    | some key, some keys => some (key :: keys)
    | _, _ => none

end

/-- The type as diagnostics name it. -/
def typeName : Value → String
  | null => "null"
  | bool _ => "bool"
  | number _ => "number"
  | string .. => "string"
  | sequence .. => "sequence"
  | mapping _ => "mapping"
  | host object => object.className

/-- The representation of the value as configuration errors and serialization errors name it. -/
def className : Value → String
  | null => "NoneType"
  | bool _ => "bool"
  | number (.int _) => "int"
  | number (.float _) => "float"
  | string _ false => "str"
  | string _ true => "SafeString"
  | sequence .list _ => "list"
  | sequence .tuple _ => "tuple"
  | mapping _ => "dict"
  | host object => object.className

/-- Null, false, zero and everything empty count as false. -/
def isTruthy : Value → Bool
  | null => false
  | bool value => value
  | number value => !value.isZero
  | string text _ => !text.isEmpty
  | sequence _ items => !items.isEmpty
  | mapping entries => !entries.isEmpty
  | host _ => true

mutual

/-- Equality of the language: a truth value is never a number, kinds of sequences and of strings
do not matter, nor does the order of a mapping. -/
def equal : Value → Value → Bool
  | null, null => true
  | bool left, bool right => left == right
  | number left, number right => left.equal right
  | string left _, string right _ => left == right
  | sequence _ left, sequence _ right => equalItems left right
  | mapping left, mapping right =>
    left.length == right.length && equalEntries left right
  | host left, host right => left.identity == right.identity
  | _, _ => false

def equalItems : List Value → List Value → Bool
  | [], [] => true
  | left :: lefts, right :: rights => left.equal right && equalItems lefts rights
  | _, _ => false

/-- Every entry on the left has an equal one under the same key on the right. -/
def equalEntries : List (Key × Value) → List (Key × Value) → Bool
  | [], _ => true
  | (key, value) :: rest, entries =>
    (match valueAt? entries key with
      | some other => value.equal other
      | none => false) && equalEntries rest entries

end

end Value

end Templating
