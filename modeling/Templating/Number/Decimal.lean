import Templating.Number.Binary64

/-!
Decimals read as binary values, and the shortest decimal that reads back as a binary value.
-/

namespace Templating

namespace Binary64

def decimalDigits (value : Nat) : List Char :=
  Nat.toDigits 10 value

/-- The value nearest to `digits * 10 ^ exponent`. Decimals far outside the range are settled by
their size, so no power of ten grows without bound. -/
def ofDecimal (negative : Bool) (digits : Nat) (exponent : Int) : Binary64 :=
  let top := exponent + (decimalDigits digits).length
  if digits = 0 then zero negative
  else if 310 < top then infinite negative
  else if top < -330 then zero negative
  else ofRatio negative (digits * tenTo exponent) (tenTo (-exponent))

/-- The greatest power of ten that is at most the fraction. -/
def leadingPlace (num den : Nat) : Int :=
  let estimate : Int := (decimalDigits num).length - (decimalDigits den).length
  if den * tenTo estimate ≤ num * tenTo (-estimate) then estimate else estimate - 1

/-- The neighbour of a magnitude on the grid of multiples of `10 ^ unit` that reads back as `value`;
of two, the nearer, and of two equally near the even one. -/
def onGrid? (value : Binary64) (num den : Nat) (unit : Int) : Option (Nat × Int) :=
  let scaledNum := num * tenTo (-unit)
  let scaledDen := den * tenTo unit
  let lower := scaledNum / scaledDen
  let nearer := roundDiv scaledNum scaledDen
  let other := if nearer = lower then lower + 1 else lower
  if ofDecimal false nearer unit = value then some (nearer, unit)
  else if ofDecimal false other unit = value then some (other, unit)
  else none

/-- Digits and exponent of the shortest decimal that reads back as this magnitude. Seventeen digits
always suffice; the exact expansion stands last so that the result reads back by construction. -/
def shortest (significand : Nat) (exponent : Int) : Nat × Int :=
  let num := significand * twoTo exponent
  let den := twoTo (-exponent)
  let leading := leadingPlace num den
  let value := finite false significand exponent
  ((List.range 17).findSome? fun (places : Nat) => onGrid? value num den (leading - places)).getD
    (num * Nat.pow 5 (-exponent).toNat, min exponent 0)

/-- Where a decimal point stands and when an exponent is written. -/
structure DecimalStyle where
  leastPositional : Int
  exponentFrom : Int
  infinity : String
  notANumber : String

/-- Between a ten-thousandth and ten to the sixteenth no exponent is written. -/
def DecimalStyle.plain : DecimalStyle :=
  { leastPositional := -4, exponentFrom := 16, infinity := "inf", notANumber := "nan" }

/-- The same digits with the words that data interchange uses. -/
def DecimalStyle.interchange : DecimalStyle :=
  { DecimalStyle.plain with infinity := "Infinity", notANumber := "NaN" }

def exponentText (exponent : Int) : List Char :=
  let digits := decimalDigits exponent.natAbs
  (if exponent < 0 then '-' else '+') :: List.replicate (2 - digits.length) '0' ++ digits

/-- A fraction part is always written, if only a zero, unless an exponent follows. -/
def magnitudeText (style : DecimalStyle) (digits : Nat) (unit : Int) : List Char :=
  let all := decimalDigits digits
  let top := unit + all.length - 1
  let kept := match (all.reverse.dropWhile (· == '0')).reverse with
    | [] => ['0']
    | significant => significant
  if style.leastPositional ≤ top && top < style.exponentFrom then
    if top < 0 then '0' :: '.' :: List.replicate (-top - 1).toNat '0' ++ kept
    else
      let whole := kept.take (top + 1).toNat
      let fraction := kept.drop (top + 1).toNat
      whole ++ List.replicate ((top + 1).toNat - whole.length) '0' ++
        '.' :: (if fraction.isEmpty then ['0'] else fraction)
  else
    let fraction := kept.drop 1
    kept.take 1 ++ (if fraction.isEmpty then [] else '.' :: fraction) ++ 'e' :: exponentText top

def text (style : DecimalStyle) : Binary64 → String
  | nan _ => style.notANumber
  | infinite negative => if negative then "-" ++ style.infinity else style.infinity
  | finite negative significand exponent =>
    let magnitude :=
      if significand = 0 then ['0', '.', '0']
      else
        let decimal := shortest significand exponent
        magnitudeText style decimal.1 decimal.2
    String.ofList (if negative then '-' :: magnitude else magnitude)

end Binary64

end Templating
