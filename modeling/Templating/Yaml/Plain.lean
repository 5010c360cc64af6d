import Templating.Yaml.Folding

/-!
Scalars without quotes. They run to the end of the line, to a comment or to a colon that ends a
key, in a flow collection also to its indicators; they go on in deeper lines, which fold.
-/

namespace Templating.Yaml

/-- The circumstances that decide what an indicator means. `older` asks for the rules of version
1.1. -/
structure Manner where
  flow : Bool
  older : Bool
deriving DecidableEq, Repr

/-- A scalar, whether a line ended behind its last part, and the place behind that. -/
structure PlainScalar where
  text : List Char
  ended : Bool
  after : Place
deriving DecidableEq, Repr

namespace Plain

/-- The characters that mean something else at the start of a scalar. -/
def reserved : List Char :=
  ['-', '?', ':', ',', '[', ']', '{', '}', '#', '&', '*', '!', '|', '>', '\'', '"', '%', '@',
    '\x60']

/-- The characters that end a scalar in a flow collection. -/
def flowMarks : List Char :=
  [',', '?', '[', ']', '{', '}']

/-- A dash, and outside flow collections a question mark or a colon, may start a scalar when it is
no indicator. The newer rules let a colon start one in a flow collection even before a line end. -/
def canStart (manner : Manner) : List Char → Bool
  | [] => false
  | c :: rest =>
    if c == '\t' || c == ' ' || isBreak c then false
    else if !reserved.contains c then true
    else if !manner.older && manner.flow && c == ':' then
      !(rest.head?.map isSpaceOrTab).getD false
    else (c == '-' || (!manner.flow && (c == '?' || c == ':'))) && !endsIndicator rest

/-- The length of the part of a scalar up to the next white space. -/
def partLength (manner : Manner) : List Char → Nat
  | [] => 0
  | c :: rest =>
    if c == ':' then
      if endsIndicator rest then 0 else partLength manner rest + 1
    else if c == '?' && !manner.older then partLength manner rest + 1
    else if isSpaceOrTab c || isLineEnd c || (manner.flow && flowMarks.contains c) then 0
    else partLength manner rest + 1

/-- What the white space behind a part reads as, whether a line ends in it, and the place behind
it. It is nothing where a document ends. -/
def gap (place : Place) : List Char × Bool × Place :=
  let spaces := place.rest.takeWhile (· == ' ')
  let after := place.skip spaces.length
  match after.lineEnd? with
  | none => (spaces, false, after)
  | some (first, next) =>
    let more := LineEnds.read (· == ' ') true next.rest
    (if more.atBoundary then [] else LineEnds.folded first more.ends, true, next.skip more.length)

/-- The parts from here on, behind white space that reads as `before` and in which a line ended or
not. `budget` is at least the number of characters left. -/
def parts (manner : Manner) (least : Nat) (before : List Char) (ended : Bool) :
    Nat → Place → PlainScalar
  | 0, place => ⟨[], ended, place⟩
  | budget + 1, place =>
    let part := if place.head? = some '#' then []
      else place.rest.take (partLength manner place.rest)
    if part.isEmpty then ⟨[], ended, place⟩
    else
      let (space, ended, next) := gap (place.skip part.length)
      if space.isEmpty || next.head? = some '#' || (!manner.flow && next.column < least) then
        ⟨before ++ part, ended, next⟩
      else
        let more := parts manner least space ended budget next
        { more with text := before ++ part ++ more.text }

/-- The scalar that starts here; `least` is the column from which further lines belong to it. -/
def read (budget : Nat) (manner : Manner) (least : Nat) (place : Place) : PlainScalar :=
  parts manner least [] false budget place

end Plain

end Templating.Yaml
