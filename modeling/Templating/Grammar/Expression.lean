import Templating.Expr
import Templating.Grammar.Cursor
import Templating.Number.Numeral
import Templating.Text.Character

/-!
Expressions read from tokens, from weak to strong binding: filters, `or`, `and`, comparisons,
sums, products, signs, and what cannot be split. All binary operators associate to the left.

Groups, list items, arguments in parentheses and signs nest; the nesting left is what the
recursion runs on, so a limit on it needs no other bound. Loops are bounded by the number of
tokens, since each turn passes one.
-/

namespace Templating

namespace Grammar

open Templating.Parser

def orOperator? (token : Token) : Option BinaryOperator :=
  if token.isKeyword "or" || token.isOperator "||" then some .or else none

def andOperator? (token : Token) : Option BinaryOperator :=
  if token.isKeyword "and" || token.isOperator "&&" then some .and else none

def comparisonOperator? (token : Token) : Option BinaryOperator :=
  if token.isKeyword "in" then some .member
  else if token.isOperator "==" then some .equal
  else if token.isOperator "!=" then some .unequal
  else if token.isOperator "<" then some (.compare .less)
  else if token.isOperator "<=" then some (.compare .atMost)
  else if token.isOperator ">" then some (.compare .greater)
  else if token.isOperator ">=" then some (.compare .atLeast)
  else none

def sumOperator? (token : Token) : Option BinaryOperator :=
  if token.isOperator "+" then some (.arithmetic .add)
  else if token.isOperator "-" then some (.arithmetic .sub)
  else none

def productOperator? (token : Token) : Option BinaryOperator :=
  if token.isOperator "*" then some (.arithmetic .mul)
  else if token.isOperator "/" then some (.arithmetic .div)
  else if token.isOperator "%" then some (.arithmetic .mod)
  else none

def unaryOperator? (token : Token) : Option UnaryOperator :=
  if token.isOperator "-" then some .negate
  else if token.isKeyword "not" || token.isOperator "!" then some .not
  else none

/-- Extends a left operand as long as an operator of the level follows. -/
def binaryRest (operator? : Token → Option BinaryOperator) (operand : Parser Expr) :
    Nat → Expr → Parser Expr
  | 0, left => return left
  | budget + 1, left => do
    let token ← current
    match operator? token with
    | none => return left
    | some operator =>
      let _ ← advance
      let right ← operand
      binaryRest operator? operand budget (.binary operator left right (← positionOf token))

def binaryLevel (operator? : Token → Option BinaryOperator) (operand : Parser Expr) :
    Parser Expr := do
  let left ← operand
  binaryRest operator? operand (← size) left

/-- Everything that binds stronger than filters, over what binds strongest. -/
def disjunction (operand : Parser Expr) : Parser Expr :=
  binaryLevel orOperator? (binaryLevel andOperator? (binaryLevel comparisonOperator?
    (binaryLevel sumOperator? (binaryLevel productOperator? operand))))

/-- Only digits; not every one of them need have a place in a numeral. -/
def isWholeNumeral (token : Token) : Bool :=
  token.kind == .number && !token.value.isEmpty && token.value.toList.all Text.isDigit

/-- A numeral with a point or an exponent is a floating value. -/
def numeral? (text : String) : Option Number :=
  if text.toList.any fun c => c == '.' || c == 'e' || c == 'E' then
    (Numeral.decimal? text).map .float
  else (Numeral.whole? text).map .int

def numeral (token : Token) : Parser Number :=
  match numeral? token.value with
  | some number => return number
  | none => refuse (.numberTooLarge token.value) token

def bracketed : Parser Segment := do
  let index ← current
  if isWholeNumeral index then
    match ← numeral index with
    | .int position => return .index position
    | .float _ => unexpected index (some "integer index or string key")
  else if index.kind = .string then return .key index.value
  else unexpected index (some "integer index or string key")

def pathRest : Nat → List Segment → Parser (List Segment)
  | 0, path => return path
  | budget + 1, path => do
    if ← accept .dot then
      let name ← expect .identifier "attribute name after '.'"
      pathRest budget (path ++ [.key name.value])
    else if ← accept .leftBracket then
      let segment ← bracketed
      let _ ← advance
      let _ ← expect .rightBracket "']' after index"
      pathRest budget (path ++ [segment])
    else return path

def reference : Parser Expr := do
  let first ← advance
  let path ← pathRest (← size) []
  return .reference first.value path (← positionOf first)

/-- Items up to the closing bracket; `nested` reads one. -/
def itemsRest (nested : Parser Expr) : Nat → List Expr → Parser (List Expr)
  | 0, items => return items ++ [← nested]
  | budget + 1, items => do
    let item ← nested
    if ← accept .rightBracket then return items ++ [item]
    else
      let _ ← expect .comma "',' or ']' in list"
      itemsRest nested budget (items ++ [item])

def listItems (nested : Parser Expr) : Parser (List Expr) := do
  if ← accept .rightBracket then return []
  else itemsRest nested (← size) []

/-- What no operator splits; `nested` reads what stands in brackets. -/
def primary (nested : Parser Expr) : Parser Expr := do
  let token ← current
  match token.kind with
  | .number =>
    let _ ← advance
    return .literal (.number (← numeral token)) (← positionOf token)
  | .string =>
    let _ ← advance
    return .literal (.string token.value) (← positionOf token)
  | .boolean =>
    let _ ← advance
    return .literal (.bool (token.value == "true")) (← positionOf token)
  | .null =>
    let _ ← advance
    return .literal .null (← positionOf token)
  | .leftBracket =>
    let _ ← advance
    return .list (← listItems nested) (← positionOf token)
  | .leftParen =>
    let _ ← advance
    let inside ← nested
    let _ ← expect .rightParen "')' after grouped expression"
    return inside
  | .identifier => reference
  | _ => unexpected token (some "expression")

/-- The arguments of a filter: first those by position, then those by name. -/
structure Arguments where
  positional : List Expr := []
  named : List (String × Expr) := []

/-- Adds one argument. A name before a colon, as a word or a string, makes it a named one. -/
def argument (value : Parser Expr) (before : Arguments) : Parser Arguments := do
  let token ← current
  if (token.kind = .identifier || token.kind = .string) && (← next).kind = .colon then
    if before.named.any (·.1 == token.value) then refuse (.duplicateArgument token.value) token
    else
      let _ ← advance
      let _ ← advance
      return { before with named := before.named ++ [(token.value, ← value)] }
  else if !before.named.isEmpty then refuse .positionalAfterNamed token
  else return { before with positional := before.positional ++ [← value] }

def argumentsRest (nested : Parser Expr) : Nat → Arguments → Parser Arguments
  | 0, before => argument nested before
  | budget + 1, before => do
    let arguments ← argument nested before
    if ← accept .rightParen then return arguments
    else
      let _ ← expect .comma "',' or ')' in filter arguments"
      argumentsRest nested budget arguments

/-- The arguments after an opening parenthesis. -/
def closedArguments (nested : Parser Expr) : Parser Arguments := do
  if ← accept .rightParen then return {}
  else argumentsRest nested (← size) {}

def startsBareArgument (kind : TokenKind) : Bool :=
  kind == .string || kind == .number || kind == .boolean || kind == .null ||
    kind == .identifier || kind == .leftBracket

/-- Arguments without parentheses, as long as a value or a name follows. -/
def bareArguments (value : Parser Expr) : Nat → Arguments → Parser Arguments
  | 0, before => return before
  | budget + 1, before => do
    if startsBareArgument (← current).kind then
      bareArguments value budget (← argument value before)
    else return before

def filtersRest (nested : Parser Expr) : Nat → Expr → Parser Expr
  | 0, base => return base
  | budget + 1, base => do
    if ← accept .pipe then
      let name ← expect .identifier "filter name"
      let arguments ←
        if ← accept .leftParen then closedArguments nested
        else bareArguments (primary nested) (← size) {}
      filtersRest nested budget
        (.filter base name.value arguments.positional arguments.named (← positionOf name))
    else return base

/-- A value with the filters applied to it. -/
def filtered (unary nested : Parser Expr) : Parser Expr := do
  let base ← disjunction unary
  filtersRest nested (← size) base

def tooDeep (limit : Int) (token : Token) : Parser Expr :=
  refuse (.tooDeep limit) token

def tooDeepHere (limit : Int) : Parser Expr := do
  tooDeep limit (← current)

/-- A sign and its operand, which nests one level deeper, or what no operator splits. -/
def signed (deeper : Token → Parser Expr) (unsplit : Parser Expr) : Parser Expr := do
  let token ← current
  match unaryOperator? token with
  | none => unsplit
  | some operator =>
    let _ ← advance
    let operand ← deeper token
    return .unary operator operand (← positionOf token)

mutual

/-- A whole expression when so many levels of nesting are left, itself included. -/
def wholeAt (limit : Int) : Nat → Cursor → Except Refusal (Expr × Cursor)
  | 0, cursor => tooDeepHere limit cursor
  | depth + 1, cursor => filtered (unaryAt limit depth) (wholeAt limit depth) cursor

def unaryAt (limit : Int) : Nat → Cursor → Except Refusal (Expr × Cursor)
  | 0, cursor => signed (tooDeep limit) (primary (tooDeepHere limit)) cursor
  | depth + 1, cursor =>
    signed (fun _ => unaryAt limit depth)
      (primary (filtered (unaryAt limit depth) (wholeAt limit depth))) cursor

end

/-- A whole expression with at most so many levels of nesting. -/
def expression (limit : Int) : Parser Expr :=
  wholeAt limit limit.toNat

end Grammar

end Templating
