import Templating.Yaml.Tag
import Templating.Yaml.Token.Lexer

/-!
Nodes: the scalars and collections of a document with their tags.
-/

namespace Templating.Yaml

/-- Every node has a number of its own, by which aliases name it. -/
inductive Node where
  | scalar (number : Nat) (tag : Tag) (text : CodePoints)
  | sequence (number : Nat) (tag : Tag) (items : List Node)
  | mapping (number : Nat) (tag : Tag) (entries : List (Node × Node))
  | reference (number : Nat)
deriving Repr

/-- A document: the version of its rules and its node, if there is one. -/
structure Document where
  version : Version := .usual
  root : Option Node := none
deriving Repr

/-- The rules that directives set for a document. -/
structure Rules where
  version : Version := .usual
  handles : List (String × String) := []
deriving DecidableEq, Repr

namespace Rules

def usualHandles : List (String × String) :=
  [("!", "!"), ("!!", Tag.standardSpace)]

/-- A tag in full, unless its handle has no meaning. -/
def fullTag? (rules : Rules) (tag : WrittenTag) : Option String :=
  match tag.handle with
  | none => some tag.suffix
  | some handle =>
    ((rules.handles ++ usualHandles).lookup handle).map (· ++ tag.suffix)

/-- A key of a mapping may be missing before its colon, except by the oldest rules. -/
def allowsMissingKeys (rules : Rules) : Bool :=
  rules.version.follows .older

end Rules

/-- The tokens left, the numbers of the nodes with an anchor, the latest first, and the number of
the next node. -/
structure NodeSource where
  tokens : List Token
  anchors : List (String × Nat) := []
  count : Nat := 0
deriving Repr

abbrev NodeReader := StateT NodeSource (Except Fault)

/-- Where a node stands: in a flow collection, in lines, or behind a key or a colon, where the items
of a sequence may stand at the column of the key. -/
inductive NodeContext where
  | flow | lines | entry
deriving DecidableEq, Repr

namespace NodeReader

/-- The token here, unless a fault of the text is. -/
def peek : NodeReader (Option Token) := do
  match (← get).tokens.head? with
  | some (.fault fault) => throw fault
  | token => return token

def refuse {α : Type} : NodeReader α :=
  throw .malformed

def advance : NodeReader Unit :=
  modify fun source => { source with tokens := source.tokens.drop 1 }

/-- Passes over a token if it is here. -/
def takes (token : Token) : NodeReader Bool := do
  if (← peek) = some token then
    advance
    return true
  else return false

def expect (token : Token) : NodeReader Unit := do
  if !(← takes token) then refuse

def isAt (tokens : List Token) : NodeReader Bool :=
  return (← peek).any tokens.contains

def anchor? : NodeReader (Option String) := do
  match ← peek with
  | some (.anchor name) =>
    advance
    return some name
  | _ => return none

def writtenTag? : NodeReader (Option WrittenTag) := do
  match ← peek with
  | some (.tag tag) =>
    advance
    return some tag
  | _ => return none

/-- An anchor and a tag, in either order. -/
def properties : NodeReader (Option String × Option WrittenTag) := do
  match ← anchor? with
  | some name => return (some name, ← writtenTag?)
  | none =>
    match ← writtenTag? with
    | some tag => return (← anchor?, some tag)
    | none => return (none, none)

/-- The number of a new node, which an anchor may name from here on. -/
def number (anchor : Option String) : NodeReader Nat :=
  modifyGet fun source =>
    (source.count, { source with
      count := source.count + 1
      anchors := (anchor.map fun name => (name, source.count)).toList ++ source.anchors })

/-- The tag in full. An exclamation mark alone says that the node has no tag. -/
def tagName? (rules : Rules) (tag : Option WrittenTag) : NodeReader (Option String) := do
  match tag with
  | none => return none
  | some tag =>
    match rules.fullTag? tag with
    | none => refuse
    | some name => return some name

def unspecific : String := "!"

/-- The tag of a collection of a certain shape. -/
def collectionTag (usual : Tag) (name : Option String) : Tag :=
  match name with
  | none => usual
  | some name => if name == unspecific then usual else .ofName name

/-- The tag of a scalar. Without one its spelling decides, unless it is quoted. -/
def scalarTag (rules : Rules) (plain : Bool) (name : Option String) (text : List Char) :
    Except Fault Tag :=
  match name with
  | some name =>
    if name == unspecific then Tag.ofPlain rules.version text else .ok (.ofName name)
  | none => if plain then Tag.ofPlain rules.version text else .ok .text

def scalar (rules : Rules) (number : Nat) (plain : Bool) (name : Option String)
    (text : CodePoints) : NodeReader Node :=
  return .scalar number (← scalarTag rules plain name (readable text)) text

def missing (rules : Rules) : NodeReader Node := do
  scalar rules (← number none) true none []

mutual

/-- The node here. It may be empty behind an anchor or a tag. -/
def node (rules : Rules) (context : NodeContext) (budget : Nat) : NodeReader Node := do
  match budget with
  | 0 => refuse
  | budget + 1 =>
    match ← peek with
    | some (.reference name) =>
      match (← get).anchors.lookup name with
      | none => refuse
      | some number =>
        advance
        return .reference number
    | _ =>
      let (anchor, tag) ← properties
      let tagName ← tagName? rules tag
      let number ← number anchor
      let first ← peek
      if context == .entry && first == some .item then
        return .sequence number (collectionTag .sequence tagName) (← alignedItems rules budget)
      match first with
      | some (.scalar text plain) =>
        advance
        scalar rules number plain tagName text
      | some (.flowStart .sequence) =>
        advance
        return .sequence number (collectionTag .sequence tagName) (← flowItems rules true budget)
      | some (.flowStart .mapping) =>
        advance
        return .mapping number (collectionTag .mapping tagName) (← flowEntries rules true budget)
      | some (.linesStart shape) =>
        if context == .flow then refuse
        advance
        match shape with
        | .sequence =>
          return .sequence number (collectionTag .sequence tagName) (← items rules budget)
        | .mapping =>
          return .mapping number (collectionTag .mapping tagName) (← entries rules budget)
      | _ =>
        if anchor.isSome || tag.isSome then scalar rules number true tagName [] else refuse
termination_by structural budget

/-- The node here, unless one of some tokens stands in its place. -/
def nodeUnless (rules : Rules) (stops : List Token) (context : NodeContext) (budget : Nat) :
    NodeReader Node := do
  match budget with
  | 0 => refuse
  | budget + 1 =>
    if ← isAt stops then missing rules else node rules context budget
termination_by structural budget

/-- The items of a sequence at the column of its key, up to something else. -/
def alignedItems (rules : Rules) (budget : Nat) : NodeReader (List Node) := do
  match budget with
  | 0 => refuse
  | budget + 1 =>
    if ← takes .item then
      let item ← nodeUnless rules [.item, .key, .value, .linesEnd] .lines budget
      return item :: (← alignedItems rules budget)
    else return []
termination_by structural budget

def items (rules : Rules) (budget : Nat) : NodeReader (List Node) := do
  match budget with
  | 0 => refuse
  | budget + 1 =>
    if ← takes .item then
      let item ← nodeUnless rules [.item, .linesEnd] .lines budget
      return item :: (← items rules budget)
    else
      expect .linesEnd
      return []
termination_by structural budget

/-- The entries of a mapping in lines. A key may lack its value and, by newer rules, a value its
key. -/
def entries (rules : Rules) (budget : Nat) : NodeReader (List (Node × Node)) := do
  match budget with
  | 0 => refuse
  | budget + 1 =>
    if ← takes .linesEnd then return []
    let stops : List Token := [.key, .value, .linesEnd]
    let key ←
      if ← takes .key then nodeUnless rules stops .entry budget
      else if rules.allowsMissingKeys && (← isAt [.value]) then missing rules
      else refuse
    let value ←
      if ← takes .value then nodeUnless rules stops .entry budget else missing rules
    return (key, value) :: (← entries rules budget)
termination_by structural budget

/-- The items of a flow sequence. An item with a key is a mapping of its own. -/
def flowItems (rules : Rules) (first : Bool) (budget : Nat) : NodeReader (List Node) := do
  match budget with
  | 0 => refuse
  | budget + 1 =>
    if ← takes (.flowEnd .sequence) then return []
    if !first then expect .separator
    if ← takes (.flowEnd .sequence) then return []
    let stops : List Token := [.separator, .flowEnd .sequence]
    let item ←
      if ← takes .key then
        let number ← number none
        let key ← nodeUnless rules (.value :: stops) .flow budget
        let value ←
          if ← takes .value then nodeUnless rules stops .flow budget else missing rules
        pure (Node.mapping number .mapping [(key, value)])
      else node rules .flow budget
    return item :: (← flowItems rules false budget)
termination_by structural budget

/-- The entries of a flow mapping. One without a colon has no value. -/
def flowEntries (rules : Rules) (first : Bool) (budget : Nat) :
    NodeReader (List (Node × Node)) := do
  match budget with
  | 0 => refuse
  | budget + 1 =>
    if ← takes (.flowEnd .mapping) then return []
    if !first then expect .separator
    if ← takes (.flowEnd .mapping) then return []
    let stops : List Token := [.separator, .flowEnd .mapping]
    let marked ← takes .key
    let bare ← isAt [.value]
    let key ←
      if marked then nodeUnless rules (.value :: stops) .flow budget
      else if rules.allowsMissingKeys && bare then missing rules
      else node rules .flow budget
    let value ←
      if marked || bare then
        if ← takes .value then nodeUnless rules stops .flow budget else missing rules
      else missing rules
    return (key, value) :: (← flowEntries rules false budget)
termination_by structural budget

end

/-- The directives here. A version must be a first one, and none of them may occur twice. -/
def directives (rules : Rules) (versions : Nat) : Nat → NodeReader Rules
  | 0 => refuse
  | budget + 1 => do
    match ← peek with
    | some (.directive directive) =>
      match directive with
      | .version version =>
        if versions ≠ 0 || version.major ≠ 1 then refuse
        advance
        directives { rules with version := version } 1 budget
      | .handle name meaning =>
        if (rules.handles.lookup name).isSome then refuse
        advance
        directives { rules with handles := (name, meaning) :: rules.handles } versions budget
      | .other =>
        advance
        directives rules versions budget
    | _ => return rules

/-- The only document of a text. Directives need a start marker behind them. -/
def document : NodeReader Document := do
  let budget := 4 * (← get).tokens.length + 4
  if ← takes .textEnd then return {}
  let marked := (← peek).any fun token =>
    match token with
    | .directive _ | .documentStart => true
    | _ => false
  let rules ← if marked then directives {} 0 budget else pure {}
  if marked then expect .documentStart
  let isOver := (← peek).any fun token =>
    match token with
    | .directive _ | .documentStart | .documentEnd _ | .textEnd => true
    | _ => false
  let root ← if marked && isOver then missing rules else node rules .lines budget
  finish rules budget
  return ⟨rules.version, some root⟩
where
  /-- An end marker may close a document, by the older rules also several ones. -/
  finish (rules : Rules) : Nat → NodeReader Unit
    | 0 => refuse
    | budget + 1 => do
      match ← peek with
      | some (.documentEnd alone) =>
        advance
        if !alone then refuse
        if rules.version.isOlder then finish rules budget else expect .textEnd
      | _ => expect .textEnd

end NodeReader

/-- The document that a text holds. -/
def Document.ofText (text : List Char) : Except Fault Document :=
  NodeReader.document.run' { tokens := Token.ofText text }

end Templating.Yaml
