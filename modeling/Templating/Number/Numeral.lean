import Templating.Number.Decimal
import Templating.Text.Character

/-!
Numbers read from text: whole numbers and decimals with digits of any script, single underscores
between digits, and white space around.
-/

namespace Templating

namespace Numeral

/-- Longer whole numbers are refused, since reading them takes quadratic time. -/
def greatestWholeLength : Nat := 4300

def plainDigit (c : Char) : Char :=
  match Text.digitValue? c with
  | some value => Char.ofNat (48 + value)
  | none => c

/-- Drops underscores, each of which must stand between two digits. -/
def ungroup (afterDigit : Bool) : List Char → Option (List Char)
  | [] => some []
  | '_' :: rest =>
    if afterDigit && (rest.head?.map Char.isDigit).getD false then ungroup false rest else none
  | c :: rest => (ungroup c.isDigit rest).map (c :: ·)

def prepared? (text : String) : Option (List Char) :=
  ungroup false ((Text.trim text).toList.map plainDigit)

def splitSign : List Char → Bool × List Char
  | '-' :: rest => (true, rest)
  | '+' :: rest => (false, rest)
  | rest => (false, rest)

def valueOf (digits : List Char) : Nat :=
  digits.foldl (fun value c => 10 * value + (c.toNat - 48)) 0

def allDigits (text : List Char) : Bool :=
  !text.isEmpty && text.all Char.isDigit

def whole? (text : String) : Option Int :=
  (prepared? text).bind fun chars =>
    let (negative, digits) := splitSign chars
    if allDigits digits && digits.length ≤ greatestWholeLength then
      some (if negative then -valueOf digits else valueOf digits)
    else none

def exponent? : List Char → Option Int
  | [] => some 0
  | e :: rest =>
    let (negative, digits) := splitSign rest
    if (e == 'e' || e == 'E') && allDigits digits then
      some (if negative then -valueOf digits else valueOf digits)
    else none

/-- Digits with an optional point among them and an optional exponent after. -/
def unsigned? (negative : Bool) (chars : List Char) : Option Binary64 :=
  let whole := chars.takeWhile Char.isDigit
  let afterWhole := chars.dropWhile Char.isDigit
  let (fraction, rest) := match afterWhole with
    | '.' :: rest => (rest.takeWhile Char.isDigit, rest.dropWhile Char.isDigit)
    | rest => ([], rest)
  if whole.isEmpty && fraction.isEmpty then none
  else (exponent? rest).map fun exponent =>
    Binary64.ofDecimal negative (valueOf (whole ++ fraction)) (exponent - fraction.length)

def decimal? (text : String) : Option Binary64 :=
  (prepared? text).bind fun chars =>
    let (negative, rest) := splitSign chars
    match String.ofList (rest.map Char.toLower) with
    | "inf" => some (.infinite negative)
    | "infinity" => some (.infinite negative)
    | "nan" => some (.nan 0)
    | _ => unsigned? negative rest

end Numeral

end Templating
