import Templating.Yaml.Label

/-!
Directives: lines before a document that set its rules, among them the version of the rules.
-/

namespace Templating.Yaml

structure Version where
  major : Nat
  minor : Nat
deriving DecidableEq, Repr

namespace Version

/-- The version of a text that names none. -/
def usual : Version := ⟨1, 2⟩

def older : Version := ⟨1, 1⟩

def isOlder (version : Version) : Bool :=
  version == older

def follows (version other : Version) : Bool :=
  other.major < version.major || (other.major == version.major && other.minor < version.minor)

end Version

inductive Directive where
  | version (version : Version)
  | handle (name meaning : String)
  | other
deriving DecidableEq, Repr

namespace Directive

def isNamePart (c : Char) : Bool :=
  Label.isHandlePart c || c == ':' || c == '.'

def number (place : Place) : Except Fault (Nat × Place) :=
  let digits := place.rest.takeWhile Char.isDigit
  if digits.isEmpty then .error .malformed
  else .ok (digits.foldl (fun value c => 10 * value + hexValue c) 0, place.skip digits.length)

def readVersion (place : Place) : Except Fault (Directive × Place) := do
  let (major, point) ← number place
  if point.head? ≠ some '.' then throw .malformed
  let (minor, after) ← number point.next
  return (.version ⟨major, minor⟩, after)

def readHandle (older : Bool) (place : Place) : Except Fault (Directive × Place) := do
  let (name, behind) ← Label.handle place
  if behind.head? ≠ some ' ' then throw .malformed
  let (meaning, after) ← Label.address older behind.skipSpaces
  return (.handle name (String.ofList meaning), after)

/-- The directive whose percent sign is here, and the place behind its line. -/
def read (older : Bool) (place : Place) : Except Fault (Directive × Place) := do
  let word := place.next.rest.takeWhile isNamePart
  let behind := place.next.skip word.length
  if word.isEmpty || !endsWord behind.rest then throw .malformed
  let (directive, after) ←
    match String.ofList word with
    | "YAML" => readVersion behind.skipSpaces
    | "TAG" => readHandle older behind.skipSpaces
    | _ => pure (other, behind.skipWhile fun c => !isLineEnd c)
  if !endsWord after.rest then throw .malformed
  match after.nextLine? with
  | none => throw .malformed
  | some next => return (directive, next)

end Directive

end Templating.Yaml
