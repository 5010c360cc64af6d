import Templating.Dictionary
import Templating.Text.Escape
import Templating.Value

/-!
Texts of values: what is written to the output, where collections appear as data interchange text,
and what messages quote. A value with a number that is too long has no text.
-/

namespace Templating

def jsonChar (c : Char) : List Char :=
  if c = '"' then ['\\', '"']
  else if c = '\\' then ['\\', '\\']
  else if c = '\n' then ['\\', 'n']
  else if c = '\r' then ['\\', 'r']
  else if c = '\t' then ['\\', 't']
  else if c.toNat = 8 then ['\\', 'b']
  else if c.toNat = 12 then ['\\', 'f']
  else if c.toNat < 32 then '\\' :: 'u' :: Text.hexDigits 4 c.toNat
  else [c]

def jsonString (text : String) : String :=
  String.ofList ('"' :: text.toList.flatMap jsonChar ++ ['"'])

def jsonArray (items : List String) : String :=
  "[" ++ ", ".intercalate items ++ "]"

def jsonObject (fields : Dictionary String) : String :=
  "\x7b" ++ ", ".intercalate (fields.map fun field => jsonString field.1 ++ ": " ++ field.2) ++
    "\x7d"

def jsonBool (value : Bool) : String :=
  if value then "true" else "false"

def truthWord (value : Bool) : String :=
  if value then "True" else "False"

def quotedString (text : String) (safe : Bool) : String :=
  if safe then "SafeString(" ++ Text.quoted text ++ ")" else Text.quoted text

def quotedTuple : List String → String
  | [item] => "(" ++ item ++ ",)"
  | items => "(" ++ ", ".intercalate items ++ ")"

namespace Key

mutual

/-- The key as messages quote it. -/
def quoted : Key → String
  | null => "None"
  | bool value => truthWord value
  | number value => value.text .plain
  | string text safe => quotedString text safe
  | tuple items => quotedTuple (quotedAll items)
  | host object => object.shown

def quotedAll : List Key → List String
  | [] => []
  | item :: items => item.quoted :: quotedAll items

end

/-- The key as the name of a field. -/
def text : Key → String
  | string text _ => text
  | host object => object.text
  | key => key.quoted

mutual

def hasText : Key → Bool
  | number value => value.hasText
  | tuple items => allHaveText items
  | _ => true

def allHaveText : List Key → Bool
  | [] => true
  | item :: items => item.hasText && allHaveText items

end

end Key

namespace Value

mutual

/-- The value as messages quote it. -/
def quoted : Value → String
  | null => "None"
  | bool value => truthWord value
  | number value => value.text .plain
  | string text safe => quotedString text safe
  | sequence .list items => "[" ++ ", ".intercalate (quotedItems items) ++ "]"
  | sequence .tuple items => quotedTuple (quotedItems items)
  | mapping entries => "\x7b" ++ ", ".intercalate (quotedEntries entries) ++ "\x7d"
  | host object => object.shown

def quotedItems : List Value → List String
  | [] => []
  | item :: items => item.quoted :: quotedItems items

def quotedEntries : List (Key × Value) → List String
  | [] => []
  | (key, value) :: rest => (key.quoted ++ ": " ++ value.quoted) :: quotedEntries rest

end

mutual

/-- Data interchange text in which every key is named by its text; of two keys with one text the
second gives the content. -/
def plainJson : Value → String
  | null => "null"
  | bool value => jsonBool value
  | number value => value.text .interchange
  | string text _ => jsonString text
  | sequence _ items => jsonArray (plainJsonItems items)
  | mapping entries => jsonObject (plainJsonFields [] entries)
  | host object => jsonString object.text

def plainJsonItems : List Value → List String
  | [] => []
  | item :: items => item.plainJson :: plainJsonItems items

def plainJsonFields (fields : Dictionary String) : List (Key × Value) → Dictionary String
  | [] => fields
  | (key, value) :: rest => plainJsonFields (fields.set key.text value.plainJson) rest

end

def numberText : Number → String
  | .int value => toString value
  | .float value =>
    match value.isWhole, value.truncate? with
    | true, some whole => toString whole
    | _, _ => value.text .plain

/-- The text that stands for a value in the output. A whole floating value shows no fraction. -/
def toText : Value → String
  | null => ""
  | bool value => jsonBool value
  | number value => numberText value
  | string text _ => text
  | sequence kind items => (sequence kind items).plainJson
  | mapping entries => (mapping entries).plainJson
  | host object => object.text

mutual

/-- Whether every number in the value can be written. -/
def hasText : Value → Bool
  | number value => value.hasText
  | sequence _ items => itemsHaveText items
  | mapping entries => entriesHaveText entries
  | _ => true

def itemsHaveText : List Value → Bool
  | [] => true
  | item :: items => item.hasText && itemsHaveText items

def entriesHaveText : List (Key × Value) → Bool
  | [] => true
  | (key, value) :: rest => key.hasText && value.hasText && entriesHaveText rest

end

end Value

end Templating
