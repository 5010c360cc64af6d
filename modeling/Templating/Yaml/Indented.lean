import Templating.Yaml.Fault
import Templating.Yaml.Place

/-!
Scalars written as indented lines: literally, or folded so that single line ends between lines that
do not start with white space read as spaces.
-/

namespace Templating.Yaml

/-- What becomes of the line ends at the end of the scalar. -/
inductive Chomping where
  | strip | clip | keep
deriving DecidableEq, Repr

structure IndentedHeader where
  chomping : Chomping := .clip
  indentation : Option Nat := none
deriving DecidableEq, Repr

/-- The line ends in front of the next line, the place there, and how deep the lines passed over
are: the first one and the deepest. -/
structure EmptyLines where
  ends : List Char := []
  first : Option Nat := none
  deepest : Nat := 0
  after : Place
deriving DecidableEq, Repr

namespace Indented

def chomping? : List Char → Option Chomping
  | '+' :: _ => some .keep
  | '-' :: _ => some .strip
  | _ => none

def digit? : List Char → Option Nat
  | c :: _ => if c.isDigit then some (c.toNat - 48) else none
  | [] => none

/-- The header, whose two parts come in either order, up to the first line of the scalar. -/
def header (place : Place) : Except Fault (IndentedHeader × Place) :=
  let first := chomping? place.rest
  let afterFirst := if first.isSome then place.next else place
  let indentation := digit? afterFirst.rest
  let afterDigit := if indentation.isSome then afterFirst.next else afterFirst
  let second := if first.isSome || indentation.isNone then none else chomping? afterDigit.rest
  let after := if second.isSome then afterDigit.next else afterDigit
  if indentation = some 0 || !endsWord after.rest then .error .malformed
  else match after.nextLine? with
    | none => .error .malformed
    | some start => .ok (⟨(first <|> second).getD .clip, indentation⟩, start)

/-- Passes over empty lines and spaces to find the indentation. -/
def leading (lines : EmptyLines) : Nat → EmptyLines
  | 0 => lines
  | budget + 1 =>
    match lines.after.lineEnd? with
    | some (c, next) =>
      leading { lines with
        ends := lines.ends ++ [c]
        first := lines.first <|> some lines.after.column
        after := next } budget
    | none =>
      if lines.after.head? = some ' ' then
        let next := lines.after.next
        leading { lines with deepest := max lines.deepest next.column, after := next } budget
      else lines

def skipIndentation (indentation : Nat) (place : Place) : Place :=
  place.skip (min (indentation - place.column) (place.rest.takeWhile (· == ' ')).length)

/-- Passes over lines that hold no more than indentation. -/
def emptyLines (indentation : Nat) (ends : List Char) : Nat → Place → List Char × Place
  | 0, place => (ends, place)
  | budget + 1, place =>
    let start := skipIndentation indentation place
    match start.lineEnd? with
    | none => (ends, start)
    | some (c, next) => emptyLines indentation (ends ++ [c]) budget next

def startsBlank (place : Place) : Bool :=
  (place.head?.map isSpaceOrTab).getD false

/-- The text of the lines from here on, the end of the last one, the empty lines behind it, and the
place behind those. A scalar without indentation ends where its document does. -/
def lines (folded atMargin : Bool) (indentation : Nat) (before : List Char) :
    Nat → Place → List Char × List Char × List Char × Place
  | 0, place => ([], [], before, place)
  | budget + 1, place =>
    let line := place.rest.takeWhile fun c => !isLineEnd c
    let stop := place.skip line.length
    let ending := (stop.lineEnd?.map fun found => [found.1]).getD []
    let (ends, next) := emptyLines indentation [] budget stop.skipLineEnd
    let goesOn := next.column == indentation && !next.rest.isEmpty &&
      !(atMargin && next.column == 0 && isBoundary next.rest)
    if goesOn then
      let folds := folded && ending == ['\n'] && !startsBlank place && !startsBlank next
      let between := if !folds then ending else if ends.isEmpty then [' '] else []
      let (text, last) := lines folded atMargin indentation ends budget next
      (before ++ line ++ between ++ text, last)
    else (before ++ line, ending, ends, next)

/-- The scalar whose first line starts here; `least` is the column from which content may start. An
empty line before the first one may not be deeper than it. -/
def body (budget : Nat) (folded : Bool) (least : Nat) (header : IndentedHeader) (place : Place) :
    Except Fault (List Char × Place) := do
  let (indentation, before, start) ←
    match header.indentation with
    | some given =>
      let indentation := max least 1 + given - 1
      let (ends, start) := emptyLines indentation [] budget place
      pure (indentation, ends, start)
    | none =>
      let found := leading { after := place } budget
      let first := found.first.getD 0
      if first ≠ 0 && first < found.deepest then throw .malformed
      pure (max least found.deepest, found.ends, found.after)
  let (text, ending, ends, after) :=
    if start.column = indentation && !start.rest.isEmpty then
      lines folded (least == 0 && header.indentation.isNone) indentation before budget start
    else ([], [], before, start)
  let final := match header.chomping with
    | .strip => []
    | .clip => ending
    | .keep => ending ++ ends
  return (text ++ final, after)

/-- The scalar whose mark is here. `budget` is more than the number of characters left. -/
def read (budget least : Nat) (place : Place) : Except Fault (List Char × Place) := do
  let (header, start) ← header place.next
  body budget (place.head? == some '>') least header start

end Indented

end Templating.Yaml
