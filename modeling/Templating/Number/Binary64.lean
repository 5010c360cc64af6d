/-!
Binary floating point of 64 bits, as a sign, a whole significand and a power of two. Every
operation is the exact result rounded once, to the nearest value with halves going to the even
neighbour, so `ofRatio` is the only place where digits are lost.
-/

namespace Templating

/-- `finite negative significand exponent` is the significand times two to the exponent, negated if
`negative`; zero has a sign too. A value that is not a number tells where it came from: it has zero
as the result of an operation, and another number for each place where such a value was given. -/
inductive Binary64 where
  | nan (origin : Nat)
  | infinite (negative : Bool)
  | finite (negative : Bool) (significand : Nat) (exponent : Int)
deriving DecidableEq, Repr, Inhabited

namespace Binary64

/-- The significand of a normal value has this many bits. -/
def precision : Nat := 53

def leastExponent : Int := -1074

def greatestExponent : Int := 971

/-- Two to this power, or one for a negative power. -/
def twoTo (exponent : Int) : Nat :=
  1 <<< exponent.toNat

/-- Ten to this power, or one for a negative power. -/
def tenTo (exponent : Int) : Nat :=
  Nat.pow 10 exponent.toNat

/-- The whole number nearest to `num / den`; a half goes to the even neighbour. -/
def roundDiv (num den : Nat) : Nat :=
  let quotient := num / den
  let twice := 2 * (num % den)
  if twice < den then quotient
  else if den < twice then quotient + 1
  else quotient + quotient % 2

/-- The fraction `num / (den * 2 ^ exponent)`, without negative powers. -/
def scaleDown (num den : Nat) (exponent : Int) : Nat × Nat :=
  (num * twoTo (-exponent), den * twoTo exponent)

/-- The exponent of the last place that a positive fraction keeps. -/
def lastPlace (num den : Nat) : Int :=
  let estimate : Int := num.log2 - den.log2
  let scaled := scaleDown num den estimate
  let leading := if scaled.2 ≤ scaled.1 then estimate else estimate - 1
  max (leading - 52) leastExponent

/-- The value nearest to a fraction, of this sign. -/
def ofRatio (negative : Bool) (num den : Nat) : Binary64 :=
  if num = 0 then finite negative 0 leastExponent
  else
    let exponent := lastPlace num den
    let scaled := scaleDown num den exponent
    let significand := roundDiv scaled.1 scaled.2
    if significand < twoTo precision then
      if exponent ≤ greatestExponent then finite negative significand exponent
      else infinite negative
    else
      if exponent + 1 ≤ greatestExponent then finite negative (significand / 2) (exponent + 1)
      else infinite negative

/-- The value nearest to `significand * 2 ^ exponent`. -/
def ofScaled (negative : Bool) (significand : Nat) (exponent : Int) : Binary64 :=
  ofRatio negative (significand * twoTo exponent) (twoTo (-exponent))

def zero (negative : Bool) : Binary64 :=
  finite negative 0 leastExponent

def ofInt (value : Int) : Binary64 :=
  ofRatio (value < 0) value.natAbs 1

def isFinite : Binary64 → Bool
  | finite .. => true
  | _ => false

def isZero : Binary64 → Bool
  | finite _ significand _ => significand == 0
  | _ => false

def neg : Binary64 → Binary64
  | nan _ => nan 0
  | infinite negative => infinite !negative
  | finite negative significand exponent => finite (!negative) significand exponent

def abs : Binary64 → Binary64
  | nan _ => nan 0
  | infinite _ => infinite false
  | finite _ significand exponent => finite false significand exponent

/-- The signed significand of a finite value, counted in units of `2 ^ unit`. -/
def unitsOf (negative : Bool) (significand : Nat) (exponent unit : Int) : Int :=
  let units : Int := significand * twoTo (exponent - unit)
  if negative then -units else units

/-- An exact sum of zero is negative only when both terms are. -/
def add : Binary64 → Binary64 → Binary64
  | nan _, _ => nan 0
  | _, nan _ => nan 0
  | infinite left, infinite right => if left = right then infinite left else nan 0
  | infinite left, finite .. => infinite left
  | finite .., infinite right => infinite right
  | finite left m e, finite right n f =>
    let unit := min e f
    let sum := unitsOf left m e unit + unitsOf right n f unit
    ofScaled (if sum = 0 then left && right else sum < 0) sum.natAbs unit

def sub (left right : Binary64) : Binary64 :=
  add left right.neg

def mul : Binary64 → Binary64 → Binary64
  | nan _, _ => nan 0
  | _, nan _ => nan 0
  | infinite left, infinite right => infinite (left != right)
  | infinite left, finite right n _ => if n = 0 then nan 0 else infinite (left != right)
  | finite left m _, infinite right => if m = 0 then nan 0 else infinite (left != right)
  | finite left m e, finite right n f => ofScaled (left != right) (m * n) (e + f)

def div : Binary64 → Binary64 → Binary64
  | nan _, _ => nan 0
  | _, nan _ => nan 0
  | infinite _, infinite _ => nan 0
  | infinite left, finite right .. => infinite (left != right)
  | finite left .., infinite right => zero (left != right)
  | finite left m e, finite right n f =>
    if n = 0 then if m = 0 then nan 0 else infinite (left != right)
    else
      let scaled := scaleDown m n (f - e)
      ofRatio (left != right) scaled.1 scaled.2

/-- The remainder with the sign of the divisor. The remainder with the sign of the dividend is
exact; a nonzero one of the other sign is moved by one divisor. -/
def mod : Binary64 → Binary64 → Binary64
  | nan _, _ => nan 0
  | _, nan _ => nan 0
  | infinite _, _ => nan 0
  | finite left m e, infinite right =>
    if m = 0 then zero right else if left = right then finite left m e else infinite right
  | finite left m e, finite right n f =>
    let unit := min e f
    let rest := (m * twoTo (e - unit)) % (n * twoTo (f - unit))
    if n = 0 then nan 0
    else if rest = 0 then zero right
    else if left = right then ofScaled left rest unit
    else add (ofScaled left rest unit) (finite right n f)

/-- Nothing is comparable with a value that is not a number. -/
def compare? : Binary64 → Binary64 → Option Ordering
  | nan _, _ => none
  | _, nan _ => none
  | infinite left, infinite right =>
    some (if left = right then .eq else if left then .lt else .gt)
  | infinite left, finite .. => some (if left then .lt else .gt)
  | finite .., infinite right => some (if right then .gt else .lt)
  | finite left m e, finite right n f =>
    let unit := min e f
    some (compare (unitsOf left m e unit) (unitsOf right n f unit))

/-- The whole part of a finite value, dropping the fraction. -/
def truncate? : Binary64 → Option Int
  | finite negative significand exponent =>
    let whole : Int := significand * twoTo exponent / twoTo (-exponent)
    some (if negative then -whole else whole)
  | _ => none

def isWhole : Binary64 → Bool
  | finite _ significand exponent => significand % twoTo (-exponent) == 0
  | _ => false

/-- The nearest whole number of a finite value; a half goes to the even neighbour. -/
def nearest? : Binary64 → Option Int
  | finite negative significand exponent =>
    let whole : Int :=
      roundDiv (significand * twoTo exponent) (twoTo (-exponent))
    some (if negative then -whole else whole)
  | _ => none

end Binary64

end Templating
