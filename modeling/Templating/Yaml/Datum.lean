import Templating.Sorting
import Templating.Text.Escape
import Templating.Value
import Templating.Value.Text
import Templating.Yaml.Fault
import Templating.Yaml.Tag

/-!
The data that nodes stand for. Bytes are written with sixty-four characters, four of which hold three
bytes; other characters between them are passed over. Collections have the number of their node,
since one may contain itself by an alias.
-/

namespace Templating.Yaml

namespace Binary

def digit? (c : Char) : Option Nat :=
  if c.isUpper then some (c.toNat - 65)
  else if c.isLower then some (c.toNat - 71)
  else if c.isDigit then some (c.toNat + 4)
  else if c = '+' then some 62
  else if c = '/' then some 63
  else none

/-- The bytes from here on, with `count` digits of the current four read, `pads` padding characters
since the last of them, and the bits `pending` that make no byte yet. Padding that completes four
digits ends the bytes; without it there may be no digits left over. -/
def bytesFrom (count pads pending : Nat) : List Char → Option (List Nat)
  | [] => if count = 0 then some [] else none
  | c :: rest =>
    if c = '=' then
      if 2 ≤ count then
        if 4 ≤ count + pads + 1 then some [] else bytesFrom count (pads + 1) pending rest
      else bytesFrom count pads pending rest
    else match digit? c with
      | none => bytesFrom count pads pending rest
      | some digit =>
        match count with
        | 0 => bytesFrom 1 0 digit rest
        | 1 => (bytesFrom 2 0 (digit % 16) rest).map ((4 * pending + digit / 16) :: ·)
        | 2 => (bytesFrom 3 0 (digit % 4) rest).map ((16 * pending + digit / 4) :: ·)
        | _ => (bytesFrom 0 0 0 rest).map ((64 * pending + digit) :: ·)

def bytes (text : List Char) : Except Fault (List Nat) :=
  if text.all fun c => c.toNat < 128 then
    match bytesFrom 0 0 0 text with
    | some bytes => .ok bytes
    | none => .error .malformed
  else .error .malformed

/-- A byte outside the printable characters is spelled by number. -/
def quoteByte (mark : Char) (byte : Nat) : List Char :=
  if byte < 127 then Text.quoteChar mark (Char.ofNat byte)
  else '\\' :: 'x' :: Text.hexDigits 2 byte

def quoted (bytes : List Nat) : String :=
  let mark := Text.quoteMark (bytes.map Char.ofNat)
  String.ofList ('b' :: mark :: bytes.flatMap (quoteByte mark) ++ [mark])

end Binary

inductive CollectionKind where
  | list | mapping | ordered | set
deriving DecidableEq, Repr

/-- A datum that cannot change is a key. `enclosing` stands for a collection around it. -/
inductive Datum where
  | atom (key : Key)
  | list (number : Nat) (items : List Datum)
  | pair (first second : Datum)
  | mapping (number : Nat) (entries : List (Key × Datum))
  | ordered (number : Nat) (entries : List (Key × Datum))
  | set (number : Nat) (members : List Key)
  | enclosing (number : Nat) (kind : CollectionKind)
deriving Repr, Inhabited

/-! Atoms that the language has no values for -/

namespace Atom

/-- Bytes as one number; equal ones have equal numbers. -/
def numberOfBytes (bytes : List Nat) : Nat :=
  bytes.foldl (fun number byte => 256 * number + byte) 1

def ofBytes (bytes : List Nat) : HostObject :=
  let shown := Binary.quoted bytes
  ⟨8 * numberOfBytes bytes, "bytes", shown, shown⟩

/-- Points in time with an offset are the same when they are at once. -/
def ofTimestamp (timestamp : Timestamp) : HostObject :=
  let (identity, className) := match timestamp with
    | .day date => (8 * date.number + 1, "date")
    | .moment date time zone =>
      (8 * Timestamp.instant date time zone + (if zone.isSome then 3 else 2), "datetime")
  ⟨identity, className, timestamp.text, timestamp.quoted⟩

def quoteCode (mark : Char) (code : Nat) : List Char :=
  if code.isValidChar then Text.quoteChar mark (Char.ofNat code)
  else '\\' :: 'u' :: Text.hexDigits 4 code

/-- A text with halves of surrogate pairs, which are spelled by number. -/
def ofCodes (text : CodePoints) : HostObject :=
  let mark := Text.quoteMark (readable text)
  let shown := String.ofList (mark :: text.flatMap (quoteCode mark) ++ [mark])
  ⟨8 * text.foldl (fun number code => 0x110000 * number + code) 1 + 5, "str", shown, shown⟩

def ofText (text : CodePoints) : Key :=
  if text.all fun code => code.isValidChar then .string (String.ofList (readable text)) false
  else .host (ofCodes text)

/-- The atom that a scalar with a tag for atoms stands for. -/
def ofScalar (version : Version) (tag : Tag) (text : CodePoints) : Except Fault Key :=
  let chars := readable text
  let word := String.ofList chars
  match tag with
  | .null => .ok .null
  | .bool => (Scalar.truth word).map .bool
  | .int => (Scalar.whole version word).map fun value => .number (.int value)
  | .float => (Scalar.float version word).map fun value => .number (.float value)
  | .binary => (Binary.bytes chars).map fun bytes => .host (ofBytes bytes)
  | .timestamp =>
    (Timestamp.ofText (Tag.withoutLastLineEnd chars)).map fun found => .host (ofTimestamp found)
  | .text => .ok (ofText text)
  | _ => .error .malformed

end Atom

namespace Datum

/-- The key that the datum is, unless it can change. -/
def key? : Datum → Option Key
  | atom key => some key
  | pair first second =>
    match first.key?, second.key? with
    | some first, some second => some (.tuple [first, second])
    | _, _ => none
  | _ => none

def isSequence : Datum → Bool
  | list .. | pair .. | enclosing _ .list => true
  | _ => false

/-- The key of an entry. A list stands for the tuple of its items. -/
def entryKey? : Datum → Option Key
  | list _ items => (items.mapM key?).map .tuple
  | datum => datum.key?

/-- Null, false, zero and everything empty count as false. -/
def isTruthy : Datum → Bool
  | atom (.host object) => object != Atom.ofBytes []
  | atom key => key.toValue.isTruthy
  | list _ items => !items.isEmpty
  | mapping _ entries | ordered _ entries => !entries.isEmpty
  | set _ members => !members.isEmpty
  | pair .. | enclosing .. => true

def entries? : Datum → Option (List (Key × Datum))
  | mapping _ entries | ordered _ entries => some entries
  | _ => none

/-- How messages quote a collection inside itself. -/
def cut : CollectionKind → Value
  | .list => .host ⟨0, "list", "[...]", "[...]"⟩
  | .mapping => .host ⟨0, "dict", "\x7b...\x7d", "\x7b...\x7d"⟩
  | .ordered => .host ⟨0, "ordereddict", "...", "..."⟩
  | .set => .host ⟨0, "set", "set(...)", "set(...)"⟩

/-- The members of a set as messages show them: whole numbers from the least on, others as given. -/
def shownMembers (members : List Key) : List Key :=
  let wholes := members.filterMap fun member => match member with
    | .number (.int value) => some value
    | _ => none
  if wholes.length < members.length then members
  else (Sorting.sort (fun left right => decide (left < right)) wholes).map fun value =>
    .number (.int value)

def quotedSet (members : List Key) : String :=
  if members.isEmpty then "set()"
  else "\x7b" ++ ", ".intercalate ((shownMembers members).map Key.quoted) ++ "\x7d"

def quotedOrdered (entries : List (Key × Value)) : String :=
  if entries.isEmpty then "ordereddict()"
  else
    let pairs := entries.map fun entry => Value.sequence .tuple [entry.1.toValue, entry.2]
    "ordereddict(" ++ (Value.list pairs).quoted ++ ")"

mutual

/-- The value of a datum inside the collections `around`, where it cannot go on without end. `follow`
is the value of a collection by its number, also inside others. -/
def toValue (follow : List Nat → Nat → Value) (around : List Nat) : Datum → Value
  | atom key => key.toValue
  | list number items =>
    if around.contains number then cut .list
    else .list (toValues follow (number :: around) items)
  | pair first second =>
    .sequence .tuple [first.toValue follow around, second.toValue follow around]
  | mapping number entries =>
    if around.contains number then cut .mapping
    else .mapping (toEntries follow (number :: around) entries)
  | ordered number entries =>
    if around.contains number then cut .ordered
    else
      let shown := quotedOrdered (toEntries follow (number :: around) entries)
      .host ⟨0, "ordereddict", shown, shown⟩
  | set _ members =>
    let shown := quotedSet members
    .host ⟨0, "set", shown, shown⟩
  | enclosing number kind =>
    if around.contains number then cut kind else follow around number

def toValues (follow : List Nat → Nat → Value) (around : List Nat) : List Datum → List Value
  | [] => []
  | item :: items => item.toValue follow around :: toValues follow around items

def toEntries (follow : List Nat → Nat → Value) (around : List Nat) :
    List (Key × Datum) → List (Key × Value)
  | [] => []
  | (key, datum) :: rest => (key, datum.toValue follow around) :: toEntries follow around rest

end

end Datum

/-- What a text holds: a datum, and the collections in it by number. -/
structure Content where
  root : Datum
  collections : List (Nat × Datum) := []
deriving Repr

namespace Content

/-- The value of a collection inside those around it. Each one met on the way is another one, so
their number is budget enough. -/
def collectionValue (content : Content) : Nat → List Nat → Nat → Value
  | 0, _, _ => .null
  | budget + 1, around, number =>
    match content.collections.lookup number with
    | none => .null
    | some datum =>
      datum.toValue (fun around number => content.collectionValue budget around number) around

def value (content : Content) (datum : Datum) : Value :=
  datum.toValue (content.collectionValue (content.collections.length + 1)) []

/-- The entries of a mapping in the content, which may enclose the place where it stands. -/
def entries? (content : Content) (datum : Datum) : Option (List (Key × Datum)) :=
  match datum with
  | .enclosing number _ => (content.collections.lookup number).bind Datum.entries?
  | datum => datum.entries?

end Content

end Templating.Yaml
