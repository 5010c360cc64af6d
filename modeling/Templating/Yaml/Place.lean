/-!
Places in a text of YAML: what is left to read, and where that starts.
-/

namespace Templating.Yaml

/-- The index counts characters from the start of the text, the column from that of the line. -/
structure Place where
  rest : List Char
  index : Nat := 0
  line : Nat := 0
  column : Nat := 0
deriving DecidableEq, Repr

def isSpaceOrTab (c : Char) : Bool :=
  c == ' ' || c == '\t'

/-- The characters that end a line of a scalar. -/
def isLineEnd (c : Char) : Bool :=
  c == '\n' || c == '\u0085'

/-- Line ends, and the separators that count as such between the parts of a scalar. -/
def isBreak (c : Char) : Bool :=
  isLineEnd c || c == '\u2028' || c == '\u2029'

/-- Whether white space, a line end or nothing is here, so that an indicator before it counts. -/
def endsIndicator : List Char → Bool
  | [] => true
  | c :: _ => isSpaceOrTab c || isLineEnd c

/-- Whether a space, a line end or nothing is here, as must be behind a tag or a directive. -/
def endsWord : List Char → Bool
  | [] => true
  | c :: _ => c == ' ' || isBreak c

/-- Whether the line is over here. -/
def endsLine : List Char → Bool
  | [] => true
  | c :: _ => isBreak c

/-- Whether a marker between documents is here. -/
def isMarker (marker : String) (rest : List Char) : Bool :=
  marker.toList.isPrefixOf rest && endsIndicator (rest.drop 3)

def startMarker : String := "---"

def endMarker : String := "..."

def isBoundary (rest : List Char) : Bool :=
  isMarker startMarker rest || isMarker endMarker rest

def isHexDigit (c : Char) : Bool :=
  c.isDigit || ('a' ≤ c && c ≤ 'f') || ('A' ≤ c && c ≤ 'F')

def hexValue (c : Char) : Nat :=
  if c.isDigit then c.toNat - 48
  else if 'a' ≤ c then c.toNat - 87
  else c.toNat - 55

def hexNumber (digits : List Char) : Nat :=
  digits.foldl (fun value c => 16 * value + hexValue c) 0

namespace Place

def head? (place : Place) : Option Char :=
  place.rest.head?

/-- Passes over a character. Only a line feed starts a line, and a byte order mark has no width. -/
def next (place : Place) : Place :=
  match place.rest with
  | [] => place
  | c :: rest =>
    if c = '\n' then ⟨rest, place.index + 1, place.line + 1, 0⟩
    else ⟨rest, place.index + 1, place.line,
      if c = '\uFEFF' then place.column else place.column + 1⟩

def skip (place : Place) : Nat → Place
  | 0 => place
  | count + 1 => place.next.skip count

def skipWhile (place : Place) (passes : Char → Bool) : Place :=
  place.skip (place.rest.takeWhile passes).length

def skipSpaces (place : Place) : Place :=
  place.skipWhile (· == ' ')

/-- Passes over a comment up to the end of its line. -/
def skipComment (place : Place) : Place :=
  if place.head? = some '#' then place.skipWhile fun c => !isLineEnd c else place

/-- The line end here, as it reads in a scalar, and the place behind it. -/
def lineEnd? (place : Place) : Option (Char × Place) :=
  match place.rest with
  | [] => none
  | c :: _ =>
    if isLineEnd c then some ('\n', place.next)
    else if isBreak c then some (c, place.next)
    else none

def skipLineEnd (place : Place) : Place :=
  (place.lineEnd?.map (·.2)).getD place

/-- Passes over spaces and perhaps a comment to the start of the next line, if nothing else is on
this one. -/
def nextLine? (place : Place) : Option Place :=
  let stop := place.skipSpaces.skipComment
  if endsLine stop.rest then some stop.skipLineEnd else none

end Place

end Templating.Yaml
