import Templating.Yaml.Datum
import Templating.Yaml.Node

/-!
What texts of YAML, which hold at most one document each, and the nodes in them read as. Collections
are read level by level: of two faults the one in a collection nearer to the root counts, and on one
level the first one.
-/

namespace Templating.Yaml

/-- A fault some levels of collections below. -/
structure DeepFault where
  fault : Fault
  depth : Nat := 0
deriving DecidableEq, Repr

abbrev Outcome := Except DeepFault

namespace Outcome

def ofExcept {α : Type} (depth : Nat) : Except Fault α → Outcome α
  | .ok value => .ok value
  | .error fault => .error ⟨fault, depth⟩

/-- The outcome as seen from so many levels above. -/
def deepen {α : Type} (levels : Nat) : Outcome α → Outcome α
  | .ok value => .ok value
  | .error fault => .error { fault with depth := fault.depth + levels }

/-- Both values, or the less deep of two faults. -/
def both {α β : Type} : Outcome α → Outcome β → Outcome (α × β)
  | .ok first, .ok second => .ok (first, second)
  | .error fault, .ok _ => .error fault
  | .ok _, .error fault => .error fault
  | .error first, .error second => .error (if second.depth < first.depth then second else first)

def all {α : Type} : List (Outcome α) → Outcome (List α)
  | [] => .ok []
  | outcome :: outcomes => (both outcome (all outcomes)).map fun (value, values) => value :: values

end Outcome

mutual

/-- A node that has been read: its tag, the text that a tag for atoms applies to, what it stands
for, and its parts. -/
inductive Reading where
  | mk (tag : Tag) (text : Option CodePoints) (datum : Outcome Datum) (parts : Parts)

/-- The parts of a collection. The fields of a mapping are its entries with those merged into it in
front, unless they cannot be merged. -/
inductive Parts where
  | nothing
  | items (items : List Reading)
  | entries (entries : List (Reading × Reading)) (fields : Option Fields)

inductive Fields where
  | mk (merged own : List (Reading × Reading))

end

namespace Reading

def tag : Reading → Tag
  | mk tag .. => tag

def text : Reading → Option CodePoints
  | mk _ text .. => text

def datum : Reading → Outcome Datum
  | mk _ _ datum _ => datum

def parts : Reading → Parts
  | mk _ _ _ parts => parts

abbrev Entry := Reading × Reading

def malformed {α : Type} : Outcome α := .error ⟨.malformed, 0⟩

/-! Entries -/

/-- The key of an entry whose key may only mark the value as the one of the mapping; such a mark is
text here. -/
def markAsText (key : Reading) : Reading :=
  match key.tag with
  | .defaultValue =>
    let datum := match key.text with
      | some text => .ok (.atom (Atom.ofText text))
      | none => malformed
    mk .text key.text datum key.parts
  | _ => key

/-- The entries that a value under a merge key contributes. Of several mappings the last one comes
first, so that the first one prevails. -/
def contribution? (value : Reading) : Option (List Entry) :=
  let ofMapping (reading : Reading) : Option (List Entry) :=
    match reading.parts with
    | .entries _ fields => fields.map fun (.mk merged own) => merged ++ own
    | _ => none
  match value.parts with
  | .items items => (items.mapM ofMapping).map fun found => found.reverse.flatten
  | _ => ofMapping value

/-- Sorts the entries into those merged and the mapping's own. Nothing may be merged once something
has been. -/
def fields? (merged own : List Entry) : List Entry → Option Fields
  | [] => some (.mk merged own)
  | (key, value) :: rest =>
    if key.tag == .merge then
      if merged.isEmpty then
        match contribution? value with
        | some found => fields? found own rest
        | none => none
      else none
    else fields? merged (own ++ [(key.markAsText, value)]) rest

/-- The entries by key. Unless something is merged no key may occur twice; otherwise the last value
counts. Faults of keys and of atoms end the reading at once. -/
def collect (unique : Bool) (known : List (Key × Outcome Datum)) :
    List Entry → Outcome (List (Key × Outcome Datum))
  | [] => .ok known
  | (keyReading, value) :: rest =>
    match keyReading.datum with
    | .error fault => .error { fault with depth := 0 }
    | .ok keyDatum =>
      match keyDatum.entryKey? with
      | none =>
        if !keyDatum.isSequence then malformed
        else
          match value.datum with
          | .error ⟨fault, 0⟩ => .error ⟨fault, 0⟩
          | _ => .error ⟨.changeableKey, 0⟩
      | some key =>
        match value.datum with
        | .error ⟨fault, 0⟩ => .error ⟨fault, 0⟩
        | outcome =>
          if known.any fun entry => entry.1.same key then
            if unique then malformed
            else
              collect unique
                (known.map fun entry =>
                  if entry.1.same key then
                    (entry.1, (Outcome.both entry.2 outcome).map (·.2))
                  else entry)
                rest
          else collect unique (known ++ [(key, outcome)]) rest

def ofFields (fields : Option Fields) : Outcome (List (Key × Datum)) :=
  match fields with
  | none => malformed
  | some (.mk merged own) => do
    let found ← collect merged.isEmpty [] (merged ++ own)
    Outcome.all (found.map fun entry => entry.2.map fun datum => (entry.1, datum))

def isCollectionTag (tag : Tag) : Bool :=
  [Tag.sequence, .pairs, .ordered, .mapping, .set].contains tag

/-- The only entry of a mapping. -/
def onlyEntry? (reading : Reading) : Option Entry :=
  match reading.parts with
  | .entries [entry] _ => some entry
  | _ => none

/-- The entries of an ordered mapping, each of which is a mapping of its own. Its keys are not read
at once, so no collection can be one. -/
def collectOrdered (known : List (Key × Outcome Datum)) :
    List Reading → Outcome (List (Key × Outcome Datum))
  | [] => .ok known
  | item :: items =>
    match onlyEntry? item with
    | none => malformed
    | some (keyReading, value) =>
      if isCollectionTag keyReading.tag then .error ⟨.changeableKey, 0⟩
      else
        match keyReading.datum.map Datum.key? with
        | .error fault => .error { fault with depth := 0 }
        | .ok none => .error ⟨.changeableKey, 0⟩
        | .ok (some key) =>
          if known.any fun entry => entry.1.same key then .error ⟨.repeatedKey, 0⟩
          else
            match value.datum with
            | .error ⟨fault, 0⟩ => .error ⟨fault, 0⟩
            | outcome => collectOrdered (known ++ [(key, outcome)]) items

def ofOrdered (items : List Reading) : Outcome (List (Key × Datum)) := do
  let found ← collectOrdered [] items
  Outcome.all (found.map fun entry => entry.2.map fun datum => (entry.1, datum))

def pairOutcome (item : Reading) : Outcome Datum :=
  match onlyEntry? item with
  | none => malformed
  | some (key, value) => (Outcome.both key.datum value.datum).map fun (first, second) =>
    .pair first second

/-! Nodes -/

/-- The levels that the contents of a collection are below it. Keys are read all at once. -/
def levels (deep : Bool) : Nat :=
  if deep then 0 else 1

/-- A collection with a tag for atoms. -/
def atomOf (version : Version) (tag : Tag) (text : Option CodePoints) : Outcome Datum :=
  match text with
  | some text =>
    if tag = .timestamp then malformed
    else .ofExcept 0 ((Atom.ofScalar version tag text).map .atom)
  | none => malformed

def ofScalar (version : Version) (deep : Bool) (tag : Tag) (text : CodePoints) : Reading :=
  let datum := if isCollectionTag tag then .deepen (levels deep) malformed
    else .ofExcept 0 ((Atom.ofScalar version tag text).map .atom)
  mk tag (some text) datum .nothing

def ofItems (version : Version) (deep : Bool) (number : Nat) (tag : Tag) (items : List Reading) :
    Reading :=
  let datum : Outcome Datum := match tag with
    | .sequence =>
      .deepen (levels deep) ((Outcome.all (items.map datum)).map (Datum.list number))
    | .pairs =>
      .deepen (levels deep) ((Outcome.all (items.map pairOutcome)).map (Datum.list number))
    | .ordered => .deepen (levels deep) ((ofOrdered items).map (Datum.ordered number))
    | .mapping | .set => .deepen (levels deep) malformed
    | _ => atomOf version tag none
  mk tag none datum (.items items)

def defaultText? (entries : List Entry) : Option CodePoints :=
  (entries.find? fun entry => entry.1.tag == .defaultValue).bind fun entry => entry.2.text

/-- With a tag for atoms a mapping stands for its value that is marked so. -/
def ofEntries (version : Version) (deep : Bool) (number : Nat) (tag : Tag) (entries : List Entry) :
    Reading :=
  let fields := fields? [] [] entries
  let text := defaultText? entries
  let datum : Outcome Datum := match tag with
    | .mapping => .deepen (levels deep) ((ofFields fields).map (Datum.mapping number))
    | .set =>
      .deepen (levels deep)
        ((ofFields fields).map fun found => Datum.set number (found.map (·.1)))
    | .sequence | .pairs | .ordered => .deepen (levels deep) malformed
    | _ => atomOf version tag text
  mk tag text datum (.entries entries fields)

def kindOf (tag : Tag) : CollectionKind :=
  match tag with
  | .mapping => .mapping
  | .ordered => .ordered
  | .set => .set
  | _ => .list

/-- A collection known only by its number and its parts, as it appears inside itself. -/
def ofReference (number : Nat) (tag : Tag) (text : Option CodePoints) (parts : Parts) : Reading :=
  mk tag text (.ok (.enclosing number (kindOf tag))) parts

/-- A part of a key inside itself. -/
def ofEnclosingKey : Reading :=
  mk .null none (.ok (.atom .null)) .nothing

/-- A list whose items are not read yet. -/
def withoutItems (number : Nat) (reading : Reading) : Reading :=
  if [Tag.sequence, .pairs].contains reading.tag then
    mk reading.tag none (.ok (.list number [])) (.items [])
  else reading

end Reading

/-- A node that has been read, and how many collections are around it, unless it is part of a key. -/
structure ReadNode where
  reading : Reading
  level : Option Nat := none

/-- The nodes before, by number, the latest first. -/
abbrev Readings := List (Nat × ReadNode)

/-- What surrounds a node: the version of the rules, the collections around it as they appear inside
themselves, whether it is part of a key, and whether it is an item of pairs, whose keys are read
like values. -/
structure Surroundings where
  version : Version
  around : List (Nat × Reading) := []
  deep : Bool := false
  paired : Bool := false

namespace Surroundings

def level (surroundings : Surroundings) : Nat :=
  surroundings.around.length

/-- Adds a reading to those before. -/
def note (surroundings : Surroundings) (number : Nat) (reading : Reading) (before : Readings) :
    Reading × Readings :=
  let level := if surroundings.deep then none else some surroundings.level
  (reading, (number, ⟨reading, level⟩) :: before)

/-- Inside a collection. One that is part of a key does not appear inside itself. -/
def within (surroundings : Surroundings) (number : Nat) (reference : Reading) : Surroundings :=
  { surroundings with
    around := if surroundings.deep then surroundings.around
      else (number, reference) :: surroundings.around
    paired := [Tag.pairs, .ordered].contains reference.tag }

def inKey (surroundings : Surroundings) : Surroundings :=
  { surroundings with deep := true }

/-- The reading of the node that an alias names. No part of a key contains itself; null stands for
it there. Keys are read before the items of lists on their own level. -/
def aliased (surroundings : Surroundings) (before : Readings) (number : Nat) : Reading :=
  match before.lookup number with
  | some ⟨reading, level⟩ =>
    if surroundings.deep && level == some surroundings.level then reading.withoutItems number
    else reading
  | none => (surroundings.around.lookup number).getD Reading.ofEnclosingKey

end Surroundings

namespace Node

mutual

/-- What a node is known to be before its collections are read. -/
def outline (surroundings : Surroundings) (before : Readings) : Node → Reading
  | scalar _ tag text => Reading.ofScalar surroundings.version surroundings.deep tag text
  | sequence number tag items =>
    Reading.ofReference number tag none (.items (outlines surroundings before items))
  | mapping number tag entries =>
    let entries := entryOutlines surroundings before entries
    Reading.ofReference number tag (Reading.defaultText? entries)
      (.entries entries (Reading.fields? [] [] entries))
  | reference number => surroundings.aliased before number

def outlines (surroundings : Surroundings) (before : Readings) : List Node → List Reading
  | [] => []
  | item :: items => item.outline surroundings before :: outlines surroundings before items

def entryOutlines (surroundings : Surroundings) (before : Readings) :
    List (Node × Node) → List (Reading × Reading)
  | [] => []
  | (key, value) :: rest =>
    (key.outline surroundings before, value.outline surroundings before) ::
      entryOutlines surroundings before rest

end

mutual

/-- The reading of a node, after those of the nodes before it. A mapping can be merged into itself, to
no effect. -/
def reading (surroundings : Surroundings) (before : Readings) : Node → Reading × Readings
  | scalar number tag text =>
    let reading := Reading.ofScalar surroundings.version surroundings.deep tag text
    surroundings.note number reading before
  | sequence number tag items =>
    let bare := Reading.ofReference number tag none .nothing
    let reference := (sequence number tag items).outline (surroundings.within number bare) before
    let (items, after) := readings (surroundings.within number reference) before items
    let reading := Reading.ofItems surroundings.version surroundings.deep number tag items
    surroundings.note number reading after
  | mapping number tag entries =>
    let bare := Reading.ofReference number tag none (.entries [] (some (.mk [] [])))
    let reference := (mapping number tag entries).outline (surroundings.within number bare) before
    let inside := surroundings.within number reference
    let (entries, after) :=
      entryReadings (if surroundings.paired then inside else inside.inKey) inside before entries
    let reading := Reading.ofEntries surroundings.version surroundings.deep number tag entries
    surroundings.note number reading after
  | reference number => (surroundings.aliased before number, before)

def readings (surroundings : Surroundings) (before : Readings) :
    List Node → List Reading × Readings
  | [] => ([], before)
  | item :: items =>
    let (first, after) := item.reading surroundings before
    let (rest, after) := readings surroundings after items
    (first :: rest, after)

/-- The readings of entries, whose keys and values may have different surroundings. -/
def entryReadings (aroundKey aroundValue : Surroundings) (before : Readings) :
    List (Node × Node) → List (Reading × Reading) × Readings
  | [] => ([], before)
  | (key, value) :: rest =>
    let (keyReading, after) := key.reading aroundKey before
    let (valueReading, after) := value.reading aroundValue after
    let (others, after) := entryReadings aroundKey aroundValue after rest
    ((keyReading, valueReading) :: others, after)

end

end Node

namespace Document

/-- What a document holds; null if it has no node. -/
def content (document : Document) : Except Fault Content :=
  match document.root with
  | none => .ok { root := .atom .null }
  | some root => do
    let (reading, readings) := root.reading { version := document.version } []
    let root ← reading.datum.mapError DeepFault.fault
    let collections := readings.filterMap fun (number, node) =>
      node.reading.datum.toOption.map fun datum => (number, datum)
    return { root := root, collections := collections }

end Document

/-- Every line end becomes a line feed. -/
def normalizeLineEnds : List Char → List Char
  | [] => []
  | '\r' :: '\n' :: rest => '\n' :: normalizeLineEnds rest
  | c :: rest => (if c = '\r' then '\n' else c) :: normalizeLineEnds rest

/-- Control characters are not allowed in a text, apart from those that are white space. -/
def isAllowed (c : Char) : Bool :=
  let code := c.toNat
  code == 9 || code == 10 || (0x20 ≤ code && code ≤ 0x7E) || code == 0x85 ||
    (0xA0 ≤ code && code != 0xFFFE && code != 0xFFFF)

/-- What a text holds. -/
def read (text : String) : Except Fault Content :=
  let chars := normalizeLineEnds text.toList
  if chars.all isAllowed then do
    (← Document.ofText chars).content
  else .error .malformed

end Templating.Yaml
