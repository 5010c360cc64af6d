import Mathlib.Data.List.Forall2
import Templating.Proofs.Lexer.Inside
import Templating.Proofs.Number.Numeral

/-!
Expressions that a source text can hold, and the lexemes that their canonical source is made of.
-/

namespace Templating

open Lexer

/-- The name of a variable, a filter or a block. -/
def IsIdentifier (name : String) : Prop :=
  Text.isName name.toList ∧ name ∉ reservedWords

/-- A name and a line feed pass for a name where a name stands without quotes. -/
def IsKeyName (name : String) : Prop :=
  Text.isNameLine name.toList → Text.isName name.toList

instance (name : String) : Decidable (IsIdentifier name) :=
  inferInstanceAs (Decidable (_ ∧ _))

instance (name : String) : Decidable (IsKeyName name) :=
  inferInstanceAs (Decidable (_ → _))

/-- The text of the value is a numeral that names the value again. -/
structure Binary64.Rereads (value : Binary64) : Prop where
  starts : ∃ c rest, (value.text .plain).toList = c :: rest ∧ c.isDigit
  lexeme : numberLexeme (value.text .plain).toList = (value.text .plain).toList
  reads : Grammar.numeral? (value.text .plain) = some (.float value)

/-- A whole number that can be read at all. -/
def IsWhole (value : Int) : Prop :=
  0 ≤ value ∧ value.toNat < 10 ^ Numeral.greatestWholeLength

def Value.IsLiteral : Value → Prop
  | .null | .bool _ => True
  | .number (.int value) => IsWhole value
  | .number (.float value) => value.Rereads
  | .string _ safe => safe = false
  | _ => False

def Segment.WellFormed : Segment → Prop
  | .key name => IsKeyName name
  | .index position => IsWhole position

namespace Expr

mutual

/-- An expression of the kind that a source text can hold. -/
def WellFormed : Expr → Prop
  | literal value _ => value.IsLiteral
  | reference name path _ => IsIdentifier name ∧ ∀ segment ∈ path, segment.WellFormed
  | list items _ => AllWellFormed items
  | binary operator left right _ =>
    operator ∈ BinaryOperator.known ∧ left.WellFormed ∧ right.WellFormed
  | unary operator operand _ => (operator = .not ∨ operator = .negate) ∧ operand.WellFormed
  | filter base name arguments named _ =>
    base.WellFormed ∧ IsIdentifier name ∧ AllWellFormed arguments ∧ NamedWellFormed named ∧
      (named.map (·.1)).Nodup

def AllWellFormed : List Expr → Prop
  | [] => True
  | item :: items => item.WellFormed ∧ AllWellFormed items

def NamedWellFormed : List (String × Expr) → Prop
  | [] => True
  | (name, value) :: rest => IsKeyName name ∧ value.WellFormed ∧ NamedWellFormed rest

end

end Expr

namespace Canonical

def operatorLexeme : BinaryOperator → Lexeme
  | .or => (.keyword, "or")
  | .and => (.keyword, "and")
  | .member => (.keyword, "in")
  | operator => (.operator, operator.symbol)

def signLexeme : UnaryOperator → Lexeme
  | .not => (.keyword, "not")
  | operator => (.operator, operator.symbol)

def literalLexeme : Value → Lexeme
  | .null => (.null, "null")
  | .bool value => (.boolean, if value then "true" else "false")
  | .number value => (.number, value.text .plain)
  | .string text _ => (.string, text)
  | _ => (.null, "")

def segmentLexemes : Segment → List Lexeme
  | .index position =>
    [(.leftBracket, "["), (.number, toString position), (.rightBracket, "]")]
  | .key name =>
    if isBareName name then [(.dot, "."), (.identifier, name)]
    else [(.leftBracket, "["), (.string, name), (.rightBracket, "]")]

def argumentLexeme (name : String) : Lexeme :=
  (if isBareName name then .identifier else .string, name)

/-- Lexemes of several parts with commas between them. -/
def commaLexemes : List (List Lexeme) → List Lexeme
  | [] => []
  | [part] => part
  | part :: next :: rest => part ++ (.comma, ",") :: commaLexemes (next :: rest)

/-- Arguments in parentheses, if there are any. -/
def argumentsLexemes (parts : List (List Lexeme)) : List Lexeme :=
  if parts.isEmpty then [] else (.leftParen, "(") :: commaLexemes parts ++ [(.rightParen, ")")]

mutual

def lexemes : Expr → List Lexeme
  | .literal value _ => [literalLexeme value]
  | .reference name path _ => (.identifier, name) :: path.flatMap segmentLexemes
  | .list items _ =>
    (.leftBracket, "[") :: commaLexemes (itemLexemes items) ++ [(.rightBracket, "]")]
  | .binary operator left right _ =>
    (.leftParen, "(") :: lexemes left ++ operatorLexeme operator :: lexemes right ++
      [(.rightParen, ")")]
  | .unary operator operand _ =>
    (.leftParen, "(") :: signLexeme operator :: lexemes operand ++ [(.rightParen, ")")]
  | .filter base name arguments named _ =>
    (.leftParen, "(") :: lexemes base ++ [(.pipe, "|"), (.identifier, name)] ++
      argumentsLexemes (itemLexemes arguments ++ namedLexemes named) ++ [(.rightParen, ")")]

def itemLexemes : List Expr → List (List Lexeme)
  | [] => []
  | item :: items => lexemes item :: itemLexemes items

def namedLexemes : List (String × Expr) → List (List Lexeme)
  | [] => []
  | (name, value) :: rest =>
    (argumentLexeme name :: (.colon, ":") :: lexemes value) :: namedLexemes rest

end

end Canonical

end Templating
