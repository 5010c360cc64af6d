import Templating.Template
import Templating.Text.Character
import Templating.Token.Lexer
import Templating.Value.Text

/-!
Canonical source: a text that spells a template. Every operation stands in parentheses, so the
text does not rest on binding strengths.
-/

namespace Templating

namespace Canonical

open Lexer (opener?)

/-- Makes openers inside text literal: `slashes` backslashes and an opener become twice as many
backslashes, one more, and the opener. `literal` counts what is left of an opener to copy. -/
def escapeRun (openers : List (List Char)) (slashes literal : Nat) : List Char → List Char
  | [] => []
  | c :: rest =>
    if literal ≠ 0 then c :: escapeRun openers 0 (literal - 1) rest
    else match opener? openers (c :: rest) with
      | some opener =>
        List.replicate (slashes + 1) '\\' ++ c :: escapeRun openers 0 (opener.length - 1) rest
      | none => c :: escapeRun openers (if c = '\\' then slashes + 1 else 0) 0 rest

/-- Whether some end of this text starts an opener that is completed by the tag after it. -/
def straddles (openers : List (List Char)) (next : List Char) : List Char → Bool
  | [] => false
  | c :: rest =>
    (match opener? openers (c :: rest ++ next ++ [' ']) with
      | some opener => rest.length + 1 < opener.length
      | none => false) || straddles openers next rest

/-- Only the last characters of a text can belong to an opener that goes past its end. -/
def joinsNextTag (delimiters : Delimiters) (openers : List (List Char)) (text : List Char) :
    Bool :=
  let reach := (openers.map List.length).foldl max 0 - 1
  let tail := text.drop (text.length - reach)
  straddles openers delimiters.expressionOpen.toList tail ||
    straddles openers delimiters.blockOpen.toList tail

/-- An empty comment that trims the blank before it, to part a text from the tag behind it. -/
def seam (delimiters : Delimiters) : List Char :=
  ' ' :: delimiters.commentOpen.toList ++ ['-', ' '] ++ delimiters.commentClose.toList

/-- The source that spells a text. Backslashes before a tag are doubled. -/
def escapeText (delimiters : Delimiters) (text : String) (beforeTag : Bool) : String :=
  let openers := delimiters.openers.map String.toList
  let escaped := escapeRun openers 0 0 text.toList
  if !beforeTag then String.ofList escaped
  else if joinsNextTag delimiters openers escaped then
    String.ofList (escaped ++ seam delimiters)
  else String.ofList (escaped ++ escaped.reverse.takeWhile (· == '\\'))

def stringChar (c : Char) : List Char :=
  if c = '\\' then ['\\', '\\']
  else if c = '"' then ['\\', '"']
  else if c = '\n' then ['\\', 'n']
  else if c = '\t' then ['\\', 't']
  else if c = '\r' then ['\\', 'r']
  else [c]

def string (text : String) : String :=
  String.ofList ('"' :: text.toList.flatMap stringChar ++ ['"'])

/-- Whether a name is written as it is; other names are written as strings. -/
def isBareName (name : String) : Bool :=
  Text.isNameLine name.toList && !reservedWords.contains name

def literal : Value → String
  | .null => "null"
  | .bool value => if value then "true" else "false"
  | .number value => value.text .plain
  | .string text _ => string text
  | .host object => object.text
  | value => value.quoted

def segment : Segment → String
  | .index position => "[" ++ toString position ++ "]"
  | .key name => if isBareName name then "." ++ name else "[" ++ string name ++ "]"

def argumentName (name : String) : String :=
  if isBareName name then name else string name

def unarySymbol : UnaryOperator → String
  | .not => "not "
  | operator => operator.symbol

mutual

def expression : Expr → String
  | .literal value _ => literal value
  | .reference name path _ => name ++ String.join (path.map segment)
  | .list items _ => "[" ++ ", ".intercalate (expressions items) ++ "]"
  | .binary operator left right _ =>
    "(" ++ expression left ++ " " ++ operator.symbol ++ " " ++ expression right ++ ")"
  | .unary operator operand _ => "(" ++ unarySymbol operator ++ expression operand ++ ")"
  | .filter base name arguments named _ =>
    let all := expressions arguments ++ namedArguments named
    "(" ++ expression base ++ " | " ++ name ++
      (if all.isEmpty then "" else "(" ++ ", ".intercalate all ++ ")") ++ ")"

def expressions : List Expr → List String
  | [] => []
  | item :: items => expression item :: expressions items

def namedArguments : List (String × Expr) → List String
  | [] => []
  | (name, value) :: rest => (argumentName name ++ ": " ++ expression value) :: namedArguments rest

end

def bindings : List (String × Expr) → List String
  | [] => []
  | (name, value) :: rest => (name ++ " = " ++ expression value) :: bindings rest

def output (delimiters : Delimiters) (inside : String) : String :=
  delimiters.expressionOpen ++ " " ++ inside ++ " " ++ delimiters.expressionClose

def tag (delimiters : Delimiters) (inside : String) : String :=
  delimiters.blockOpen ++ " " ++ inside ++ " " ++ delimiters.blockClose

mutual

def node (delimiters : Delimiters) (beforeTag : Bool) : Node → String
  | .text content _ => escapeText delimiters content beforeTag
  | .output expr _ => output delimiters (expression expr)
  | .condition test body branches otherwise _ =>
    tag delimiters ("if " ++ expression test) ++ nodes delimiters true body ++
      further delimiters branches ++ rest delimiters otherwise ++ tag delimiters "endif"
  | .loop targets iterable body otherwise _ =>
    tag delimiters ("for " ++ ", ".intercalate targets ++ " in " ++ expression iterable) ++
      nodes delimiters true body ++ rest delimiters otherwise ++ tag delimiters "endfor"
  | .binding name value _ => tag delimiters ("let " ++ name ++ " = " ++ expression value)
  | .block name body _ =>
    tag delimiters ("block " ++ name) ++ nodes delimiters true body ++ tag delimiters "endblock"
  | .parent name _ => tag delimiters ("extends " ++ string name)
  | .inclusion name none _ => tag delimiters ("include " ++ string name)
  | .inclusion name (some pairs) _ =>
    tag delimiters ("include " ++ string name ++ " with " ++ ", ".intercalate (bindings pairs))

/-- Nodes in order; `closed` tells whether a tag follows the last one. -/
def nodes (delimiters : Delimiters) (closed : Bool) : List Node → String
  | [] => ""
  | first :: others =>
    node delimiters (closed || !others.isEmpty) first ++ nodes delimiters closed others

def branch (delimiters : Delimiters) : Branch → String
  | .mk test body _ => tag delimiters ("elif " ++ expression test) ++ nodes delimiters true body

def further (delimiters : Delimiters) : List Branch → String
  | [] => ""
  | first :: others => branch delimiters first ++ further delimiters others

def rest (delimiters : Delimiters) : Option (List Node) → String
  | none => ""
  | some body => tag delimiters "else" ++ nodes delimiters true body

end

def source (delimiters : Delimiters) (body : List Node) : String :=
  nodes delimiters false body

end Canonical

/-- Source text that spells the template with these delimiters. -/
def Template.toSource (delimiters : Delimiters) (template : Template) : String :=
  Canonical.source delimiters template.body

end Templating
