import Templating.Yaml.Fault
import Templating.Yaml.Place

/-!
The words that label nodes: names of anchors, and tags, which a handle may abbreviate.
-/

namespace Templating.Yaml

/-- A tag as it is written. Without a handle its suffix is all of it. -/
structure WrittenTag where
  handle : Option String
  suffix : String
deriving DecidableEq, Repr

namespace Label

def isVisible (c : Char) : Bool :=
  let code := c.toNat
  (0x21 ≤ code && code ≤ 0x7E) || (0xA0 ≤ code && code ≠ 0xFEFF && code ≠ 0xFFFE && code ≠ 0xFFFF)

def isNamePart (c : Char) : Bool :=
  isVisible c && !List.contains [',', '[', ']', '{', '}'] c

/-- The name of an anchor, of which a visible character or white space must follow. -/
def name (place : Place) : Except Fault (String × Place) :=
  let word := place.rest.takeWhile isNamePart
  let after := place.skip word.length
  let ends := endsIndicator after.rest || (after.head?.map isVisible).getD false
  if word.isEmpty || !ends then .error .malformed else .ok (String.ofList word, after)

def isHandlePart (c : Char) : Bool :=
  c.isAlphanum || c == '-' || c == '_'

/-- The characters of addresses; the newer rules admit a number sign. -/
def isAddressPart (older : Bool) (c : Char) : Bool :=
  c.isAlphanum ||
    ['-', ';', '/', '?', ':', '@', '&', '=', '+', '$', ',', '_', '.', '!', '~', '*', '\'', '(',
      ')', '[', ']', '%'].contains c ||
    (!older && c == '#')

def isText (bytes : List Nat) : Bool :=
  (ByteArray.mk (bytes.map UInt8.ofNat).toArray).validateUTF8

/-- Whether each percent sign starts the number of a byte, and bytes in a row are a text. -/
def isEscaped (run : List Nat) : List Char → Bool
  | '%' :: high :: low :: rest =>
    isHexDigit high && isHexDigit low && isEscaped (hexNumber [high, low] :: run) rest
  | '%' :: _ => false
  | _ :: rest => isText run.reverse && isEscaped [] rest
  | [] => isText run.reverse

/-- Each escaped byte reads as the character of that number. -/
def unescape : List Char → List Char
  | '%' :: high :: low :: rest => Char.ofNat (hexNumber [high, low]) :: unescape rest
  | c :: rest => c :: unescape rest
  | [] => []

def address (older : Bool) (place : Place) : Except Fault (List Char × Place) :=
  let word := place.rest.takeWhile (isAddressPart older)
  if word.isEmpty || !isEscaped [] word then .error .malformed
  else .ok (word, place.skip word.length)

/-- A handle from its exclamation mark on. -/
def handle (place : Place) : Except Fault (String × Place) :=
  if place.head? ≠ some '!' then .error .malformed
  else if place.next.head? = some ' ' then .ok ("!", place.next)
  else
    let word := place.next.rest.takeWhile isHandlePart
    let after := place.next.skip word.length
    if after.head? = some '!' then .ok (String.ofList ('!' :: word ++ ['!']), after.next)
    else .error .malformed

/-- Whether a second exclamation mark follows in the word here. -/
def hasHandle (rest : List Char) : Bool :=
  ((rest.drop 1).takeWhile fun c => !endsWord [c]).contains '!'

/-- The tag here. A lone exclamation mark is one, and brackets hold a tag in full. -/
def tag (older : Bool) (place : Place) : Except Fault (WrittenTag × Place) := do
  let (short, start) := if place.next.head? = some '!' then ("!!", place.next) else ("!", place)
  let (found, after) ←
    if start.next.head? = some '<' then do
      let (word, after) ← address older (start.skip 2)
      if after.head? ≠ some '>' then throw .malformed
      pure (WrittenTag.mk none (String.ofList (unescape word)), after.next)
    else if endsIndicator start.next.rest then pure (WrittenTag.mk none "!", start.next)
    else do
      let (handle, start) ← if hasHandle start.rest then handle start else pure (short, start.next)
      let (word, after) ← address older start
      pure (WrittenTag.mk (some handle) (String.ofList (unescape word)), after)
  if endsWord after.rest then return (found, after) else throw .malformed

end Label

end Templating.Yaml
