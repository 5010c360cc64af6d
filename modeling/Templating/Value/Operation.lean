import Templating.Fault
import Templating.Text.Search
import Templating.Value

/-!
Operators on values: ordering, membership and arithmetic.
-/

namespace Templating

inductive Comparison where
  | less | atMost | greater | atLeast
deriving DecidableEq, Repr

namespace Comparison

def symbol : Comparison → String
  | less => "<"
  | atMost => "<="
  | greater => ">"
  | atLeast => ">="

/-- Values that do not compare satisfy no comparison. -/
def holds (comparison : Comparison) : Option Ordering → Bool
  | none => false
  | some ordering =>
    match comparison with
    | less => ordering.isLT
    | atMost => ordering.isLE
    | greater => ordering.isGT
    | atLeast => ordering.isGE

end Comparison

inductive Arithmetic where
  | add | sub | mul | div | mod
deriving DecidableEq, Repr

namespace Arithmetic

def symbol : Arithmetic → String
  | add => "+"
  | sub => "-"
  | mul => "*"
  | div => "/"
  | mod => "%"

end Arithmetic

/-- How an operation on values can fail: for a cause that templates are told of, or because a
result does not fit into floating point. -/
inductive OperationFailure where
  | cause (cause : OperationCause)
  | overflow
deriving DecidableEq, Repr

namespace Value

def mismatch (operator : String) (left right : Value) : OperationCause :=
  .mismatch operator left.typeName right.typeName

/-- Texts are ordered by code points. -/
def compareText (left right : String) : Ordering :=
  compareOfLessAndEq left right

/-- Only numbers and texts are ordered, each among themselves. -/
def compare (comparison : Comparison) (left right : Value) : Except OperationCause Bool :=
  match left, right with
  | number left, number right => .ok (comparison.holds (left.compare? right))
  | string left _, string right _ => .ok (comparison.holds (some (compareText left right)))
  | _, _ => .error (mismatch comparison.symbol left right)

/-- A text contains its parts, a sequence its items and a mapping its keys. -/
def contains (container item : Value) : Except OperationCause Bool :=
  match container with
  | string text _ =>
    match item with
    | string part _ => .ok (Text.isInfix part.toList text.toList)
    | _ => .error (mismatch "in" item container)
  | sequence _ items => .ok (items.any item.equal)
  | mapping entries =>
    match item.toKey? with
    | some key => .ok (entries.any fun entry => entry.1.same key)
    | none => .error (mismatch "in" item container)
  | _ => .error (mismatch "in" item container)

def ofNumber? : Option Number → Except OperationFailure Value
  | some value => .ok (number value)
  | none => .error .overflow

def numeric (operator : Arithmetic) (left right : Number) : Except OperationFailure Value :=
  match operator with
  | .add => ofNumber? (left.add? right)
  | .sub => ofNumber? (left.sub? right)
  | .mul => ofNumber? (left.mul? right)
  | .div =>
    if right.isZero then .error (.cause .divisionByZero) else ofNumber? (left.div? right)
  | .mod =>
    if right.isZero then .error (.cause .divisionByZero) else ofNumber? (left.mod? right)

/-- Addition also joins two texts or two sequences. -/
def arithmetic (operator : Arithmetic) (left right : Value) : Except OperationFailure Value :=
  match operator, left, right with
  | operator, number left, number right => numeric operator left right
  | .add, string left _, string right _ => .ok (string (left ++ right))
  | .add, sequence _ left, sequence _ right => .ok (list (left ++ right))
  | operator, left, right => .error (.cause (mismatch operator.symbol left right))

def negate : Value → Except OperationCause Value
  | number value => .ok (number value.neg)
  | value => .error (.notNegatable value.typeName)

end Value

end Templating
