import Templating.Yaml.Place

/-!
Line folding: how the white space between two parts of a scalar reads.
-/

namespace Templating.Yaml

/-- The line ends among white space behind a line end. A marker between documents stops the search
for them. -/
structure LineEnds where
  ends : List Char := []
  length : Nat := 0
  atBoundary : Bool := false
deriving DecidableEq, Repr

namespace LineEnds

/-- `fresh` tells whether a line starts here. -/
def read (isBlank : Char → Bool) (fresh : Bool) : List Char → LineEnds
  | [] => {}
  | c :: rest =>
    if fresh && isBoundary (c :: rest) then { atBoundary := true }
    else if isBlank c then
      let more := read isBlank false rest
      { more with length := more.length + 1 }
    else if isBreak c then
      let more := read isBlank true rest
      { more with
        ends := (if isLineEnd c then '\n' else c) :: more.ends
        length := more.length + 1 }
    else {}

/-- A single line end reads as a space; of several the first is dropped, unless it is a separator
of another kind. -/
def folded (first : Char) (more : List Char) : List Char :=
  if first ≠ '\n' then first :: more
  else if more.isEmpty then [' ']
  else more

end LineEnds

end Templating.Yaml
