import Templating.Delimiters
import Templating.Fault
import Templating.Text.Character
import Templating.Token

/-!
Tokens read from the text of a template. Text runs up to the next opening delimiter; inside a tag
the text is split into names, literals and operators; comments leave no token. A hyphen beside a
delimiter trims the white space of the neighbouring text.
-/

namespace Templating

namespace Lexer

/-- The text not yet read and where it starts. -/
structure Reader where
  rest : List Char
  mark : Mark
deriving DecidableEq, Repr

namespace Reader

def ofSource (source : String) : Reader :=
  ⟨source.toList, {}⟩

def skip (reader : Reader) (count : Nat) : Reader :=
  ⟨reader.rest.drop count, reader.mark.past (reader.rest.take count)⟩

def skipBlanks (reader : Reader) : Reader :=
  reader.skip (reader.rest.takeWhile Text.isBlank).length

def startsWith (reader : Reader) (text : List Char) : Bool :=
  text.isPrefixOf reader.rest

end Reader

/-- A cause and the place it is blamed on. -/
abbrev Stop := LexicalCause × Mark

def opener? (openers : List (List Char)) (text : List Char) : Option (List Char) :=
  openers.find? (·.isPrefixOf text)

/-- Adds characters before the text of a run. -/
def precede (start : List Char) (run : List Char × Reader) : List Char × Reader :=
  (start ++ run.1, run.2)

/-- The text before the next opener. Before an opener, two backslashes stand for one and a single
one makes the opener part of the text; elsewhere backslashes are text. `slashes` counts the
backslashes just read and `literal` what is left of an opener that is text. -/
def textRun (openers : List (List Char)) (slashes literal : Nat) (mark : Mark) :
    List Char → List Char × Reader
  | [] => (List.replicate slashes '\\', ⟨[], mark⟩)
  | c :: rest =>
    if literal ≠ 0 then precede [c] (textRun openers 0 (literal - 1) (mark.step c) rest)
    else if c = '\\' then textRun openers (slashes + 1) 0 (mark.step c) rest
    else match opener? openers (c :: rest) with
      | some opener =>
        if slashes % 2 = 1 then
          precede (List.replicate (slashes / 2) '\\' ++ [c])
            (textRun openers 0 (opener.length - 1) (mark.step c) rest)
        else (List.replicate (slashes / 2) '\\', ⟨c :: rest, mark⟩)
      | none =>
        precede (List.replicate slashes '\\' ++ [c]) (textRun openers 0 0 (mark.step c) rest)

/-- What stands before the first occurrence of a delimiter. -/
def before? (delimiter : List Char) : List Char → Option (List Char)
  | [] => none
  | c :: rest =>
    if delimiter.isPrefixOf (c :: rest) then some [] else (before? delimiter rest).map (c :: ·)

def startsWithMarker (text : List Char) : Bool :=
  text.head? == some '-'

/-- The reader behind the hyphen that an opening delimiter may have. -/
def Reader.skipMarker (reader : Reader) : Reader :=
  if startsWithMarker reader.rest then reader.skip 1 else reader

/-- The reader behind a comment, and whether its closing delimiter trims. -/
def skipComment (delimiters : Delimiters) (reader : Reader) : Except Stop (Bool × Reader) :=
  let content := (reader.skip delimiters.commentOpen.length).skipMarker
  match before? delimiters.commentClose.toList content.rest with
  | none => .error (.unterminatedComment, reader.mark)
  | some inside =>
    .ok (inside.getLast? == some '-',
      content.skip (inside.length + delimiters.commentClose.length))

/-- A point and the digits behind it, if there are any. -/
def fractionLexeme : List Char → List Char
  | '.' :: rest =>
    let digits := rest.takeWhile Text.isDecimal
    if digits.isEmpty then [] else '.' :: digits
  | _ => []

/-- The letter of an exponent, a sign and digits, if there are any. -/
def exponentLexeme : List Char → List Char
  | [] => []
  | e :: rest =>
    let sign := rest.take (if rest.head? == some '+' || rest.head? == some '-' then 1 else 0)
    let digits := (rest.drop sign.length).takeWhile Text.isDecimal
    if (e == 'e' || e == 'E') && !digits.isEmpty then e :: sign ++ digits else []

/-- Digits, an optional fraction and an optional exponent; empty when no digit comes first. -/
def numberLexeme (text : List Char) : List Char :=
  let whole := text.takeWhile Text.isDecimal
  if whole.isEmpty then []
  else
    let afterWhole := text.dropWhile Text.isDecimal
    let fraction := fractionLexeme afterWhole
    whole ++ fraction ++ exponentLexeme (afterWhole.drop fraction.length)

def nameLexeme (text : List Char) : List Char :=
  match text with
  | [] => []
  | c :: _ => if Text.isNameStart c then text.takeWhile Text.isNamePart else []

def wordKind (word : String) : TokenKind :=
  if booleanWords.contains word then .boolean
  else if nullWords.contains word then .null
  else if keywords.contains word then .keyword
  else .identifier

def symbols : List (String × TokenKind) :=
  [("==", .operator), ("!=", .operator), ("<=", .operator), (">=", .operator), ("&&", .operator),
    ("||", .operator), ("+", .operator), ("-", .operator), ("*", .operator), ("/", .operator),
    ("%", .operator), ("<", .operator), (">", .operator), ("!", .operator), ("|", .pipe),
    (",", .comma), (".", .dot), (":", .colon), ("=", .assign), ("(", .leftParen),
    (")", .rightParen), ("[", .leftBracket), ("]", .rightBracket)]

def escapes : List (Char × Char) :=
  [('\\', '\\'), ('"', '"'), ('\'', '\''), ('n', '\n'), ('t', '\t'), ('r', '\r')]

inductive StringStop where
  | endOfText
  | badEscape (escaped : Char) (mark : Mark)
deriving DecidableEq, Repr

/-- The value of a string literal after its opening quote. -/
def stringBody (quote : Char) (mark : Mark) :
    List Char → Except StringStop (List Char × Reader)
  | [] => .error .endOfText
  | c :: rest =>
    if c = quote then .ok ([], ⟨rest, mark.step c⟩)
    else if c = '\\' then
      match rest with
      | [] => .error .endOfText
      | escaped :: rest =>
        match escapes.lookup escaped with
        | none => .error (.badEscape escaped mark)
        | some replacement =>
          (stringBody quote ((mark.step c).step escaped) rest).map (precede [replacement])
    else (stringBody quote (mark.step c) rest).map (precede [c])

/-- How a tag ends: its closing delimiter, the kind of that token, and where the tag started. -/
structure TagEnd where
  close : List Char
  kind : TokenKind
  start : Mark

/-- A literal that runs to the end of the text is blamed on the tag if that never closes. -/
def unterminatedString (tag : TagEnd) (reader : Reader) : Stop :=
  if (before? tag.close reader.rest).isSome then (.unterminatedString, reader.mark)
  else (.unterminatedTag (String.ofList tag.close), tag.start)

def stringToken (tag : TagEnd) (quote : Char) (reader : Reader) :
    Except Stop (Token × Reader) :=
  match stringBody quote (reader.mark.step quote) (reader.rest.drop 1) with
  | .ok (value, after) => .ok (⟨.string, String.ofList value, reader.mark⟩, after)
  | .error .endOfText => .error (unterminatedString tag reader)
  | .error (.badEscape escaped mark) => .error (.invalidEscape escaped, mark)

def lexemeToken (kind : TokenKind) (lexeme : List Char) (reader : Reader) : Token × Reader :=
  (⟨kind, String.ofList lexeme, reader.mark⟩, reader.skip lexeme.length)

/-- The token at the start of a tag's text that neither is blank nor closes the tag. -/
def tagToken (tag : TagEnd) (reader : Reader) : Except Stop (Token × Reader) :=
  match reader.rest with
  | [] => .error (.unterminatedTag (String.ofList tag.close), tag.start)
  | c :: _ =>
    if c = '\'' || c = '"' then stringToken tag c reader
    else if !(numberLexeme reader.rest).isEmpty then
      .ok (lexemeToken .number (numberLexeme reader.rest) reader)
    else if !(nameLexeme reader.rest).isEmpty then
      let word := nameLexeme reader.rest
      .ok (lexemeToken (wordKind (String.ofList word)) word reader)
    else match symbols.find? fun symbol => reader.startsWith symbol.1.toList with
      | some (symbol, kind) => .ok (lexemeToken kind symbol.toList reader)
      | none => .error (.unexpectedCharacter c, reader.mark)

/-- The tokens of a tag and its closing delimiter, whether that trims, and the reader behind it.
`budget` is at least the number of characters left. -/
def tagTokens (tag : TagEnd) : Nat → Reader → Except Stop (List Token × Bool × Reader)
  | 0, _ => .error (.unterminatedTag (String.ofList tag.close), tag.start)
  | budget + 1, reader =>
    let reader := reader.skipBlanks
    if reader.rest.isEmpty then .error (.unterminatedTag (String.ofList tag.close), tag.start)
    else if reader.startsWith ('-' :: tag.close) then
      let token := lexemeToken tag.kind tag.close (reader.skip 1)
      .ok ([token.1], true, token.2)
    else if reader.startsWith tag.close then
      let token := lexemeToken tag.kind tag.close reader
      .ok ([token.1], false, token.2)
    else do
      let (token, reader) ← tagToken tag reader
      let (tokens, after) ← tagTokens tag budget reader
      return (token :: tokens, after)

/-- A whole tag with both delimiters. A hyphen right after the opening one belongs to it. `budget`
is at least the number of characters behind that. -/
def tag (openKind closeKind : TokenKind) (opener close : List Char) (budget : Nat)
    (reader : Reader) : Except Stop (List Token × Bool × Reader) := do
  let (token, afterOpen) := lexemeToken openKind opener reader
  let (tokens, after) ←
    tagTokens ⟨close, closeKind, reader.mark⟩ budget afterOpen.skipMarker
  return (token :: tokens, after)

/-- The tag or comment that starts here. -/
def tagOrComment (delimiters : Delimiters) (opener : List Char) (budget : Nat)
    (reader : Reader) : Except Stop (List Token × Bool × Reader) :=
  if opener = delimiters.commentOpen.toList then
    (skipComment delimiters reader).map fun after => ([], after)
  else if opener = delimiters.expressionOpen.toList then
    tag .expressionOpen .expressionClose opener delimiters.expressionClose.toList budget reader
  else tag .blockOpen .blockClose opener delimiters.blockClose.toList budget reader

/-- Where a text starts if a hyphen before it may trim it. -/
def Reader.textStart (reader : Reader) (trims : Bool) : Reader :=
  if trims then reader.skipBlanks else reader

/-- A run of text without the blanks at its end, if the tag behind it trims. -/
def trimmedRun (openers : List (List Char)) (run next : List Char) : List Char :=
  match opener? openers next with
  | some opener => if startsWithMarker (next.drop opener.length) then Text.trimEnd run else run
  | none => run

/-- The text before the next tag, trimmed on the sides where a hyphen stands. Empty text leaves no
token. -/
def textToken (openers : List (List Char)) (trims : Bool) (reader : Reader) :
    List Token × Reader :=
  let start := reader.textStart trims
  let (run, after) := textRun openers 0 0 start.mark start.rest
  let value := trimmedRun openers run after.rest
  (if value.isEmpty then [] else [⟨.text, String.ofList value, start.mark⟩], after)

/-- All tokens of a text, closed by the end of input. `trims` tells whether a hyphen before the
text trims it; `budget` is at least the number of characters left. -/
def tokensFrom (delimiters : Delimiters) (openers : List (List Char)) :
    Nat → Bool → Reader → Except Stop (List Token)
  | 0, _, reader => .ok [⟨.endOfInput, "", reader.mark⟩]
  | budget + 1, trims, reader =>
    let (text, after) := textToken openers trims reader
    match opener? openers after.rest with
    | none => .ok (text ++ [⟨.endOfInput, "", after.mark⟩])
    | some opener => do
      let (tokens, trims, after) ← tagOrComment delimiters opener budget after
      let rest ← tokensFrom delimiters openers budget trims after
      return text ++ tokens ++ rest

def tokens (delimiters : Delimiters) (source : String) : Except Stop (List Token) :=
  let reader := Reader.ofSource source
  tokensFrom delimiters (delimiters.openers.map String.toList) reader.rest.length false reader

end Lexer

/-- The tokens of a template's source. -/
def tokenize (delimiters : Delimiters) (template source : String) :
    Except Fault (List Token) :=
  match Lexer.tokens delimiters source with
  | .ok tokens => .ok tokens
  | .error (cause, mark) =>
    .error (.of (.lexical cause) (some ⟨template, mark⟩) (some source))

end Templating
