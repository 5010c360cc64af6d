import Templating.Yaml.Quoted
import Templating.Yaml.Scalar
import Templating.Yaml.Timestamp

/-!
What tags mean, and which tag a scalar has that bears none.
-/

namespace Templating.Yaml

/-- The standard tags. `merge` and `defaultValue` say something about a key, `other` stands for all
the rest. -/
inductive Tag where
  | null | bool | int | float | binary | timestamp | text
  | sequence | pairs | ordered | mapping | set
  | merge | defaultValue
  | other
deriving DecidableEq, Repr

namespace Tag

def standardSpace : String := "tag:yaml.org,2002:"

def standardNames : List (String × Tag) :=
  [("null", null), ("bool", bool), ("int", int), ("float", float), ("binary", binary),
    ("timestamp", timestamp), ("str", text), ("seq", sequence), ("pairs", pairs),
    ("omap", ordered), ("map", mapping), ("set", set), ("merge", merge), ("value", defaultValue)]

/-- The meaning of a tag in full. -/
def ofName (name : String) : Tag :=
  ((standardNames.find? fun entry => standardSpace ++ entry.1 == name).map (·.2)).getD other

/-- A line end at the end of a scalar does not change what it is. -/
def withoutLastLineEnd (text : List Char) : List Char :=
  if text.getLast? = some '\n' then text.dropLast else text

/-- The tag by the spelling. A lone line end is text. -/
def ofSpelling (older : Bool) (text : List Char) : Tag :=
  let chars := withoutLastLineEnd text
  let word := String.ofList chars
  if chars.isEmpty && !text.isEmpty then .text
  else if (Scalar.truthWords older).contains word then bool
  else if Scalar.isFloat older chars then float
  else if Scalar.isWhole older chars then int
  else if word == "<<" then merge
  else if Scalar.nullWords.contains word then null
  else if Timestamp.isSpelled chars then timestamp
  else if word == "=" then defaultValue
  else if ["!", "&", "*"].contains word then other
  else .text

/-- The tag of an unquoted scalar. -/
def ofPlain (version : Version) (text : List Char) : Except Fault Tag :=
  if version = .usual || version = .older then .ok (ofSpelling version.isOlder text)
  else .error .unknownVersion

end Tag

/-- The characters of a text; half of a surrogate pair reads as the replacement character. -/
def readable (text : CodePoints) : List Char :=
  text.map fun code => if code.isValidChar then Char.ofNat code else '\uFFFD'

end Templating.Yaml
