import Templating.Position
import Templating.Value.Operation

/-!
Expressions of the template language. Every expression knows the place it was read from; two
expressions that differ only in places are the same expression.
-/

namespace Templating

inductive BinaryOperator where
  | or | and | equal | unequal | member
  | compare (comparison : Comparison)
  | arithmetic (operator : Arithmetic)
  | unknown (symbol : String)
deriving DecidableEq, Repr

namespace BinaryOperator

def symbol : BinaryOperator → String
  | or => "or"
  | and => "and"
  | equal => "=="
  | unequal => "!="
  | member => "in"
  | compare comparison => comparison.symbol
  | arithmetic operator => operator.symbol
  | unknown symbol => symbol

def known : List BinaryOperator :=
  [or, and, equal, unequal, member, compare .less, compare .atMost, compare .greater,
    compare .atLeast, arithmetic .add, arithmetic .sub, arithmetic .mul, arithmetic .div,
    arithmetic .mod]

def ofSymbol (symbol : String) : BinaryOperator :=
  (known.find? (·.symbol == symbol)).getD (unknown symbol)

end BinaryOperator

inductive UnaryOperator where
  | not | negate
  | unknown (symbol : String)
deriving DecidableEq, Repr

namespace UnaryOperator

def symbol : UnaryOperator → String
  | not => "not"
  | negate => "-"
  | unknown symbol => symbol

def ofSymbol (symbol : String) : UnaryOperator :=
  if symbol = "not" then not else if symbol = "-" then negate else unknown symbol

end UnaryOperator

/-- One step from a value into it. -/
inductive Segment where
  | key (name : String)
  | index (position : Int)
deriving DecidableEq, Repr

inductive Expr where
  | literal (value : Value) (position : Option Position)
  | reference (name : String) (path : List Segment) (position : Option Position)
  | list (items : List Expr) (position : Option Position)
  | binary (operator : BinaryOperator) (left right : Expr) (position : Option Position)
  | unary (operator : UnaryOperator) (operand : Expr) (position : Option Position)
  | filter (base : Expr) (name : String) (arguments : List Expr)
      (named : List (String × Expr)) (position : Option Position)
deriving Repr, Inhabited

/-- A variable with its path as messages show it. -/
def dotted (name : String) (path : List Segment) : String :=
  path.foldl (fun shown segment => shown ++ match segment with
    | .key name => "." ++ name
    | .index position => "[" ++ toString position ++ "]") name

namespace Expr

def position : Expr → Option Position
  | literal _ position | reference _ _ position | list _ position | binary _ _ _ position
  | unary _ _ position | filter _ _ _ _ position => position

mutual

/-- The expression without its places. -/
def unplaced : Expr → Expr
  | literal value _ => literal value none
  | reference name path _ => reference name path none
  | list items _ => list (unplacedAll items) none
  | binary operator left right _ => binary operator left.unplaced right.unplaced none
  | unary operator operand _ => unary operator operand.unplaced none
  | filter base name arguments named _ =>
    filter base.unplaced name (unplacedAll arguments) (unplacedNamed named) none

def unplacedAll : List Expr → List Expr
  | [] => []
  | item :: items => item.unplaced :: unplacedAll items

def unplacedNamed : List (String × Expr) → List (String × Expr)
  | [] => []
  | (name, value) :: rest => (name, value.unplaced) :: unplacedNamed rest

end

/-- Literals are the same if they also have the same kind of value. -/
def sameLiteral (left right : Value) : Bool :=
  left.className == right.className && left.equal right

mutual

/-- Whether two expressions differ at most in places. -/
def same : Expr → Expr → Bool
  | literal left _, literal right _ => sameLiteral left right
  | reference name path _, reference other otherPath _ => name == other && path == otherPath
  | list items _, list others _ => sameAll items others
  | binary operator left right _, binary other otherLeft otherRight _ =>
    operator == other && left.same otherLeft && right.same otherRight
  | unary operator operand _, unary other otherOperand _ =>
    operator == other && operand.same otherOperand
  | filter base name arguments named _, filter other otherName otherArguments otherNamed _ =>
    base.same other && name == otherName && sameAll arguments otherArguments &&
      sameNamed named otherNamed
  | _, _ => false

def sameAll : List Expr → List Expr → Bool
  | [], [] => true
  | left :: lefts, right :: rights => left.same right && sameAll lefts rights
  | _, _ => false

def sameNamed : List (String × Expr) → List (String × Expr) → Bool
  | [], [] => true
  | (name, left) :: lefts, (other, right) :: rights =>
    name == other && left.same right && sameNamed lefts rights
  | _, _ => false

end

end Expr

end Templating
