import Templating.Position
import Templating.Text.Escape

/-!
Tokens of a template: runs of text, the delimiters of tags, and what stands inside tags.
-/

namespace Templating

inductive TokenKind where
  | text
  | expressionOpen | expressionClose | blockOpen | blockClose
  | identifier | keyword
  | string | number | boolean | null
  | operator | pipe | comma | dot | colon | assign
  | leftParen | rightParen | leftBracket | rightBracket
  | endOfInput
deriving DecidableEq, Repr, Inhabited

namespace TokenKind

/-- The kind as diagnostics name it. -/
def name : TokenKind → String
  | text => "TEXT"
  | expressionOpen => "EXPR_OPEN"
  | expressionClose => "EXPR_CLOSE"
  | blockOpen => "BLOCK_OPEN"
  | blockClose => "BLOCK_CLOSE"
  | identifier => "IDENTIFIER"
  | keyword => "KEYWORD"
  | string => "STRING"
  | number => "NUMBER"
  | boolean => "BOOLEAN"
  | null => "NULL"
  | operator => "OPERATOR"
  | pipe => "PIPE"
  | comma => "COMMA"
  | dot => "DOT"
  | colon => "COLON"
  | assign => "ASSIGN"
  | leftParen => "LPAREN"
  | rightParen => "RPAREN"
  | leftBracket => "LBRACKET"
  | rightBracket => "RBRACKET"
  | endOfInput => "EOF"

def all : List TokenKind :=
  [text, expressionOpen, expressionClose, blockOpen, blockClose, identifier, keyword, string,
    number, boolean, null, operator, pipe, comma, dot, colon, assign, leftParen, rightParen,
    leftBracket, rightBracket, endOfInput]

def ofName? (name : String) : Option TokenKind :=
  all.find? (·.name == name)

end TokenKind

/-- The value is the token's own text, except that of a string, which has its escapes resolved. -/
structure Token where
  kind : TokenKind
  value : String
  mark : Mark
deriving DecidableEq, Repr, Inhabited

namespace Token

def position (token : Token) (template : String) : Position :=
  ⟨template, token.mark⟩

def isKeyword (token : Token) (word : String) : Bool :=
  token.kind == .keyword && token.value == word

def isOperator (token : Token) (symbol : String) : Bool :=
  token.kind == .operator && token.value == symbol

/-- The token as error messages name it. -/
def describe (token : Token) : String :=
  match token.kind with
  | .endOfInput => "end of input"
  | .string => "string " ++ Text.quoted token.value
  | kind => kind.name.toLower ++ " '" ++ token.value ++ "'"

/-- The token as traces show it. -/
def trace (token : Token) : String :=
  "Token(" ++ token.kind.name ++ ", " ++ Text.quoted token.value ++ ", " ++
    toString token.mark.line ++ ":" ++ toString token.mark.column ++ ")"

end Token

/-- Words that cannot name variables. -/
def keywords : List String :=
  ["if", "elif", "else", "endif", "for", "in", "endfor", "let", "block", "endblock", "extends",
    "include", "with", "and", "or", "not"]

def booleanWords : List String :=
  ["true", "false"]

def nullWords : List String :=
  ["null", "none"]

/-- Words that the grammar keeps for itself. -/
def reservedWords : List String :=
  booleanWords ++ nullWords ++ keywords

end Templating
