import Templating.Number.Numeral

/-!
Numbers of the template language: whole numbers of any size and binary floating point. Two whole
numbers give a whole number, except in a division that leaves a rest; any other pair is taken to
floating point first.
-/

namespace Templating

inductive Number where
  | int (value : Int)
  | float (value : Binary64)
deriving DecidableEq, Repr, Inhabited

namespace Number

/-- Nothing when a whole number is too large for floating point. -/
def toBinary? : Number → Option Binary64
  | float value => some value
  | int value => if (Binary64.ofInt value).isFinite then some (Binary64.ofInt value) else none

def isZero : Number → Bool
  | int value => value == 0
  | float value => value.isZero

/-- A whole number as an exact floating value with as many significant bits as it needs; fit for
comparing only. -/
def exact : Number → Binary64
  | int value => .finite (value < 0) value.natAbs 0
  | float value => value

def compare? (left right : Number) : Option Ordering :=
  left.exact.compare? right.exact

def equal (left right : Number) : Bool :=
  left.compare? right == some .eq

/-- Whether two numbers are one key. A value that is not a number equals nothing but is one key. -/
def same (left right : Number) : Bool :=
  left.equal right || left == right

def less (left right : Number) : Bool :=
  left.compare? right == some .lt

def combine? (onWhole : Int → Int → Int) (onBinary : Binary64 → Binary64 → Binary64) :
    Number → Number → Option Number
  | int left, int right => some (int (onWhole left right))
  | left, right => do return float (onBinary (← left.toBinary?) (← right.toBinary?))

def add? : Number → Number → Option Number :=
  combine? (· + ·) Binary64.add

def sub? : Number → Number → Option Number :=
  combine? (· - ·) Binary64.sub

def mul? : Number → Number → Option Number :=
  combine? (· * ·) Binary64.mul

/-- Both remainders have the sign of the divisor. -/
def mod? : Number → Number → Option Number :=
  combine? Int.fmod Binary64.mod

/-- Whole when the division of two whole numbers leaves no rest, else the quotient rounded once. -/
def div? : Number → Number → Option Number
  | int left, int right =>
    if Int.fmod left right = 0 then some (int (Int.fdiv left right))
    else
      let quotient := Binary64.ofRatio ((left < 0) != (right < 0)) left.natAbs right.natAbs
      if quotient.isFinite then some (float quotient) else none
  | left, right => do return float (Binary64.div (← left.toBinary?) (← right.toBinary?))

def neg : Number → Number
  | int value => int (-value)
  | float value => float value.neg

def abs : Number → Number
  | int value => int value.natAbs
  | float value => float value.abs

/-- Drops the fraction of a finite value. -/
def truncate? : Number → Option Int
  | int value => some value
  | float value => value.truncate?

/-- The multiple of `10 ^ places` nearest to a whole number; a half goes to the even one. With more
places than binary digits that is zero, which is found without the power. -/
def roundWhole (value : Int) (places : Nat) : Int :=
  if value.natAbs.log2 < places then 0
  else
    let unit := Binary64.tenTo places
    let nearest : Int := Binary64.roundDiv value.natAbs unit * unit
    if value < 0 then -nearest else nearest

/-- Rounds a floating value to `digits` decimal places, negative for places before the point.
Nothing when the result is too large. -/
def roundBinary? (value : Binary64) (digits : Int) : Option Binary64 :=
  match value with
  | .finite negative significand exponent =>
    if 323 < digits then some value
    else if digits < -308 then some (.zero negative)
    else
      let units := Binary64.roundDiv
        (significand * Binary64.twoTo exponent * Binary64.tenTo digits)
        (Binary64.twoTo (-exponent) * Binary64.tenTo (-digits))
      let rounded :=
        Binary64.ofRatio negative (units * Binary64.tenTo (-digits)) (Binary64.tenTo digits)
      if rounded.isFinite then some rounded else none
  | .infinite _ => some value
  | .nan _ => some (.nan 0)

/-- Without places the result is a whole number; with places a value keeps its kind. -/
def round? (value : Number) (digits : Int) : Option Number :=
  match value with
  | int whole => some (int (if 0 ≤ digits then whole else roundWhole whole (-digits).toNat))
  | float binary =>
    if digits = 0 then binary.nearest?.map int else (roundBinary? binary digits).map float

/-- Whether a number can be written: a whole number must not have more digits than can be read. That
is seen from the length in bits of all but the greatest ones. -/
def hasText : Number → Bool
  | int value =>
    value.natAbs.log2 < 3 * Numeral.greatestWholeLength ||
      value.natAbs < Binary64.tenTo Numeral.greatestWholeLength
  | float _ => true

/-- The digits of a whole number, or the shortest decimal of a floating value. -/
def text (style : Binary64.DecimalStyle) : Number → String
  | int value => toString value
  | float value => value.text style

end Number

end Templating
