import Templating.Yaml.Fault
import Templating.Yaml.Folding

/-!
Scalars in quotes. Between single quotes a quote is written twice; between double quotes a backslash
starts an escape. Line ends fold. An escape may name half of a surrogate pair, which is no
character, so the text is one of code points.
-/

namespace Templating.Yaml

abbrev CodePoints := List Nat

def codePoints (text : List Char) : CodePoints :=
  text.map Char.toNat

namespace Quoted

def escapes : List (Char × Char) :=
  [('0', '\x00'), ('a', '\x07'), ('b', '\x08'), ('t', '\t'), ('\t', '\t'), ('n', '\n'),
    ('v', '\x0b'), ('f', '\x0c'), ('r', '\r'), ('e', '\x1b'), (' ', ' '), ('"', '"'), ('/', '/'),
    ('\\', '\\'), ('N', '\u0085'), ('_', '\u00a0'), ('L', '\u2028'), ('P', '\u2029')]

/-- How many digits name a character by number. -/
def codeLengths : List (Char × Nat) :=
  [('x', 2), ('u', 4), ('U', 8)]

def greatestCode : Nat := 0x10FFFF

/-- Codes from here on are not even compared with the greatest one. -/
def codeLimit : Nat := 0x80000000

def code (digits : List Char) (length : Nat) : Except Fault Nat :=
  if digits.length < length || !digits.all isHexDigit then .error .malformed
  else
    let code := hexNumber digits
    if code ≤ greatestCode then .ok code
    else .error (if code < codeLimit then .noSuchValue else .outOfRange)

/-- White space behind a line end reads as its further line ends; no document may end in it. -/
def furtherEnds (place : Place) : Except Fault (List Char × Place) :=
  let more := LineEnds.read isSpaceOrTab true place.rest
  if more.atBoundary then .error .malformed else .ok (more.ends, place.skip more.length)

/-- The escape whose backslash has been read. -/
def escape (place : Place) : Except Fault (CodePoints × Place) :=
  match place.lineEnd?, place.rest with
  | some (_, next), _ => do
    let (ends, after) ← furtherEnds next
    return (codePoints ends, after)
  | none, [] => .error .malformed
  | none, c :: rest =>
    match escapes.lookup c, codeLengths.lookup c with
    | some replacement, _ => .ok ([replacement.toNat], place.next)
    | none, some length => do
      return ([← code (rest.take length) length], place.skip (length + 1))
    | none, none => .error .malformed

/-- White space between the quotes. -/
def space (place : Place) : Except Fault (CodePoints × Place) :=
  let blanks := place.rest.takeWhile isSpaceOrTab
  let after := place.skip blanks.length
  match after.lineEnd? with
  | none => .ok (codePoints blanks, after)
  | some (first, next) => do
    let (ends, after) ← furtherEnds next
    return (codePoints (LineEnds.folded first ends), after)

/-- What stands behind an opening quote, and the place behind the closing one. `budget` is at least
the number of characters left. -/
def body (double : Bool) : Nat → Place → Except Fault (CodePoints × Place)
  | 0, _ => .error .malformed
  | budget + 1, place =>
    match place.rest with
    | [] => .error .malformed
    | c :: rest => do
      if c = (if double then '"' else '\'') then
        if double || rest.head? ≠ some '\'' then return ([], place.next)
        else
          let (more, after) ← body double budget (place.skip 2)
          return (c.toNat :: more, after)
      else
        let (part, next) ←
          if double && c == '\\' then escape place.next
          else if isSpaceOrTab c || isBreak c then space place
          else pure ([c.toNat], place.next)
        let (more, after) ← body double budget next
        return (part ++ more, after)

/-- The scalar whose opening quote is here. -/
def read (budget : Nat) (place : Place) : Except Fault (CodePoints × Place) :=
  body (place.head? == some '"') budget place.next

end Quoted

end Templating.Yaml
