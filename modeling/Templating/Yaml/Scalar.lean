import Templating.Number.Numeral
import Templating.Text.Case
import Templating.Yaml.Directive
import Templating.Yaml.Fault
import Templating.Yaml.Place

/-!
Null, truth values and numbers as scalars spell them. Underscores in numbers are for the eye only.
What is spelled like a number need not be one, and a tag may ask for a number in a wider spelling.
-/

namespace Templating.Yaml

namespace Scalar

/-! Spellings of scalars without a tag -/

def nullWords : List String := ["", "~", "null", "Null", "NULL"]

def truthWords (older : Bool) : List String :=
  ["true", "True", "TRUE", "false", "False", "FALSE"] ++
    if older then
      ["y", "Y", "yes", "Yes", "YES", "n", "N", "no", "No", "NO", "on", "On", "ON", "off", "Off",
        "OFF"]
    else []

def isBinaryDigit (c : Char) : Bool := c == '0' || c == '1'

def isOctalDigit (c : Char) : Bool := '0' ≤ c && c ≤ '7'

def isSign (c : Char) : Bool := c == '+' || c == '-'

/-- At least one digit or underscore, and nothing else. -/
def isRun (isDigit : Char → Bool) (text : List Char) : Bool :=
  !text.isEmpty && text.all fun c => c == '_' || isDigit c

def startsLikeNumber (text : List Char) : Bool :=
  (text.head?.map fun c => isSign c || c.isDigit).getD false

def isGrouped (c : Char) : Bool := c == '_' || c.isDigit

def startsWithDigit (text : List Char) : Bool :=
  (text.head?.map Char.isDigit).getD false

/-- The parts of a text between colons, the last one first. -/
def parts (text : List Char) : List (List Char) :=
  text.foldl (fun parts c =>
    match parts, c with
    | parts, ':' => [] :: parts
    | [], c => [[c]]
    | part :: others, c => (part ++ [c]) :: others) [[]]

/-- A number of sixtieths has one or two digits. -/
def isSixtieth : List Char → Bool
  | [c] => c.isDigit
  | [c, d] => '0' ≤ c && c ≤ '5' && d.isDigit
  | _ => false

/-- Whether sixtieths follow a number that starts with one of certain digits. -/
def isSexagesimal (first : Char → Bool) (text : List Char) : Bool :=
  let (more, whole) := (text.dropWhile isGrouped, text.takeWhile isGrouped)
  (whole.head?.map first).getD false && more.head? == some ':' &&
    (parts (more.drop 1)).all isSixtieth

def isWholeDigits (older : Bool) : List Char → Bool
  | '0' :: 'b' :: digits => isRun isBinaryDigit digits
  | '0' :: 'x' :: digits => isRun isHexDigit digits
  | '0' :: 'o' :: digits => !older && isRun isOctalDigit digits
  | digits =>
    if older then
      isRun isOctalDigit digits ||
        (isRun Char.isDigit digits && startsWithDigit digits && digits.head? != some '0') ||
        isSexagesimal (fun c => c.isDigit && c != '0') digits
    else isRun Char.isDigit digits

/-- Whether the text is spelled like a whole number. -/
def isWhole (older : Bool) (text : List Char) : Bool :=
  startsLikeNumber text && isWholeDigits older (Numeral.splitSign text).2

/-- An exponent with digits, whose sign may be required. -/
def isExponent (signed : Bool) : List Char → Bool
  | e :: rest =>
    let digits := if (rest.head?.map isSign).getD false then rest.drop 1 else rest
    (e == 'e' || e == 'E') && (!signed || digits.length < rest.length) && !digits.isEmpty &&
      digits.all Char.isDigit
  | [] => false

/-- Whether the text is spelled like a number with a fraction or an exponent. Without digits before
the point the exponent needs a sign, and by the older rules the number has none. -/
def isDecimal (older : Bool) (text : List Char) : Bool :=
  let rest := (Numeral.splitSign text).2
  let whole := rest.takeWhile isGrouped
  match rest.dropWhile isGrouped with
  | '.' :: fraction =>
    let digits := fraction.takeWhile isGrouped
    let exponent := fraction.dropWhile isGrouped
    if startsWithDigit whole then exponent.isEmpty || isExponent false exponent
    else
      whole.isEmpty && !(older && rest.length < text.length) && !digits.isEmpty &&
        (exponent.isEmpty || isExponent true exponent)
  | exponent => startsWithDigit whole && isExponent false exponent

/-- Sixtieths and a fraction. -/
def isSexagesimalDecimal (text : List Char) : Bool :=
  let rest := (Numeral.splitSign text).2
  let whole := rest.takeWhile (· != '.')
  isSexagesimal Char.isDigit whole && whole.length < rest.length &&
    (rest.drop (whole.length + 1)).all isGrouped

def infinityWords : List String := [".inf", ".Inf", ".INF"]

def nanWords : List String := [".nan", ".NaN", ".NAN"]

def isFloat (older : Bool) (text : List Char) : Bool :=
  isDecimal older text || (older && isSexagesimalDecimal text) ||
    infinityWords.contains (String.ofList (Numeral.splitSign text).2) ||
    nanWords.contains (String.ofList text)

/-! Values of scalars with a tag -/

/-- In any case, and whatever the version. -/
def truth (text : String) : Except Fault Bool :=
  match Text.lower text with
  | "yes" | "y" | "true" | "on" => .ok true
  | "no" | "n" | "false" | "off" => .ok false
  | _ => .error .noTruthValue

def withoutUnderscores (text : List Char) : List Char :=
  text.filter (· != '_')

def digitValue? (base : Nat) (c : Char) : Option Nat :=
  let lower := c.toLower
  let value :=
    if c.isDigit then c.toNat - 48
    else if 'a' ≤ lower && lower ≤ 'f' then lower.toNat - 87
    else base
  if value < base then some value else none

/-- A number in a base that is a power of two: white space may stand around it, and a sign and the
mark of the base before it. -/
def inBase (base : Nat) (mark : Char) (text : List Char) : Except Fault Int :=
  let plain := (Text.trim (String.ofList text)).toList.map Numeral.plainDigit
  let (negative, rest) := Numeral.splitSign plain
  let digits := match rest with
    | '0' :: c :: digits => if c.toLower == mark then digits else rest
    | _ => rest
  match digits.mapM (digitValue? base) with
  | none => .error .noSuchValue
  | some values =>
    if values.isEmpty then .error .noSuchValue
    else
      let value := values.foldl (fun value digit => base * value + digit) 0
      .ok (if negative then -value else value)

def decimalWhole (text : List Char) : Except Fault Int :=
  match Numeral.whole? (String.ofList text) with
  | some value => .ok value
  | none => .error .noSuchValue

/-- The value of parts, the last of which comes first, when each counts sixty of the next one. -/
def sexagesimal (parts : List (List Char)) : Except Fault Int := do
  let values ← parts.mapM decimalWhole
  return values.foldr (fun digit value => digit + 60 * value) 0

/-- A whole number without its sign. By the older rules a zero marks the base eight. -/
def unsignedWhole (older : Bool) (text : List Char) : Except Fault Int :=
  match text with
  | ['0'] => .ok 0
  | '0' :: 'b' :: digits => inBase 2 'b' digits
  | '0' :: 'x' :: digits => inBase 16 'x' digits
  | '0' :: 'o' :: digits => inBase 8 'o' digits
  | digits =>
    if !older then decimalWhole digits
    else if digits.isEmpty then .error .noDigits
    else if digits.head? = some '0' then inBase 8 'o' digits
    else if digits.contains ':' then sexagesimal (parts digits)
    else decimalWhole digits

def whole (version : Version) (text : String) : Except Fault Int :=
  match withoutUnderscores text.toList with
  | [] => .error .noDigits
  | digits => do
    let (negative, rest) := Numeral.splitSign digits
    let value ← unsignedWhole version.isOlder rest
    return if negative then -value else value

def decimal (text : List Char) : Except Fault Binary64 :=
  match Numeral.decimal? (String.ofList text) with
  | some value => .ok value
  | none => .error .noSuchValue

/-- The sum of parts, the last of which comes first, when each counts sixty of the next one. -/
def sexagesimalDecimal (parts : List (List Char)) : Except Fault Binary64 := do
  let values ← parts.mapM decimal
  let (sum, _) := values.foldl (fun (sum, (unit : Int)) value =>
    (Binary64.add sum (Binary64.mul value (Binary64.ofInt unit)), 60 * unit))
    (Binary64.zero false, 1)
  return sum

/-- Every place where the word for no number stands gives one and the same value. -/
def notNumber : Binary64 :=
  .nan 1

/-- A number with a fraction. -/
def float (version : Version) (text : String) : Except Fault Binary64 :=
  match withoutUnderscores (Text.lower text).toList with
  | [] => .error .noDigits
  | chars => do
    let (negative, rest) := Numeral.splitSign chars
    if String.ofList rest == ".inf" then return .infinite negative
    if String.ofList rest == ".nan" then return notNumber
    let value ←
      if version != .usual && rest.contains ':' then sexagesimalDecimal (parts rest)
      else decimal rest
    return if negative then value.neg else value

end Scalar

end Templating.Yaml
