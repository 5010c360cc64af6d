import Templating.Fault
import Templating.Token

/-!
A cursor over tokens and the parsers that move it. A list of tokens that lacks its end of input
behaves as if one stood at the place of its last token.
-/

namespace Templating

/-- The tokens still to read, the last token of the whole list and the list's length, the template
they belong to, and the blocks that have been opened so far. -/
structure Cursor where
  rest : List Token
  last : Token
  size : Nat
  template : String
  blocks : List (String × Mark) := []
deriving DecidableEq, Repr

namespace Cursor

def ofTokens (template : String) (tokens : List Token) : Cursor :=
  { rest := tokens, last := tokens.getLast?.getD ⟨.endOfInput, "", {}⟩, size := tokens.length,
    template := template }

def current (cursor : Cursor) : Token :=
  cursor.rest.head?.getD ⟨.endOfInput, "", cursor.last.mark⟩

def next (cursor : Cursor) : Token :=
  cursor.rest[1]?.getD cursor.last

/-- The end of input is never passed. -/
def advance (cursor : Cursor) : Cursor :=
  if cursor.current.kind = .endOfInput then cursor else { cursor with rest := cursor.rest.drop 1 }

end Cursor

/-- A cause and the token it is blamed on. -/
abbrev Refusal := GrammarCause × Token

abbrev Parser := StateT Cursor (Except Refusal)

namespace Parser

def current : Parser Token :=
  return (← get).current

def next : Parser Token :=
  return (← get).next

/-- The number of all tokens, which bounds the turns of every loop that passes one each turn. -/
def size : Parser Nat :=
  return (← get).size

def advance : Parser Token :=
  modifyGet fun cursor => (cursor.current, cursor.advance)

def positionOf (token : Token) : Parser (Option Position) :=
  return some (token.position (← get).template)

def refuse {α : Type} (cause : GrammarCause) (token : Token) : Parser α :=
  throw (cause, token)

def unexpected {α : Type} (token : Token) (expected : Option String) : Parser α :=
  refuse (.unexpected token.describe expected) token

/-- Passes a token of this kind if one comes next. -/
def accept (kind : TokenKind) : Parser Bool := do
  if (← current).kind = kind then
    let _ ← advance
    return true
  else return false

def expect (kind : TokenKind) (what : String) : Parser Token := do
  let token ← current
  if token.kind = kind then advance else unexpected token (some what)

end Parser

end Templating
