import Templating.Yaml.Indented
import Templating.Yaml.Token.Lexing

/-!
Tokens read from a text, one by one.
-/

namespace Templating.Yaml

namespace Lexing

/-- The length of spaces, comments and line ends, and whether a line ends among them. In flow
collections tabs are white space too. -/
def blankLength (flow comment : Bool) : List Char → Nat × Bool
  | [] => (0, false)
  | c :: rest =>
    if comment && !isLineEnd c then
      let (length, ended) := blankLength flow true rest
      (length + 1, ended)
    else if isBreak c then ((blankLength flow false rest).1 + 1, true)
    else if c == ' ' || c == '#' || (flow && c == '\t') then
      let (length, ended) := blankLength flow (c == '#') rest
      (length + 1, ended)
    else (0, false)

/-- Passes to the next token and closes the collections that end before it. A line end lets a key
start, except in a flow collection. -/
def approach (state : Lexing) : Except Fault Lexing := do
  let (length, ended) := blankLength state.inFlow false state.place.rest
  let place := state.place.skip length
  let keyAllowed := state.keyAllowed || (ended && !state.inFlow)
  let state ← dropStale { state with place := place, keyAllowed := keyAllowed }
  return state.closeWhile fun innermost => place.column < innermost

/-- Ends what is open before a directive or a marker. -/
def leaveDocument (state : Lexing) : Except Fault Lexing :=
  state.closeAll.dropKeyStart

def directive (state : Lexing) : Except Fault Lexing := do
  let state ← state.leaveDocument
  let (directive, next) ← Directive.read state.version.isOlder state.place
  let version := match directive with
    | .version version => version
    | _ => state.version
  return { state.take (.directive directive) next false with version := version }

def marker (token : Token) (state : Lexing) : Except Fault Lexing := do
  return (← state.leaveDocument).take token (state.place.skip 3) false

/-- Whether nothing but a comment is left on the line. -/
def isAlone (place : Place) : Bool :=
  let stop := place.skipSpaces.skipComment
  stop.rest.isEmpty || stop.head? == some '\n'

def flowStart (shape : CollectionShape) (state : Lexing) : Except Fault Lexing := do
  let state := (← state.noteKeyStart).take (.flowStart shape) state.place.next true
  return { state with flows := shape :: state.flows, keyStarts := none :: state.keyStarts }

/-- Brackets need not match here. -/
def flowEnd (shape : CollectionShape) (state : Lexing) : Except Fault Lexing := do
  let after := (← state.dropKeyStart).take (.flowEnd shape) state.place.next false
  return { after with
    flows := after.flows.drop 1
    keyStarts := if state.inFlow then after.keyStarts.drop 1 else after.keyStarts }

def separator (state : Lexing) : Except Fault Lexing := do
  return (← state.dropKeyStart).take .separator state.place.next true

def item (state : Lexing) : Except Fault Lexing := do
  return (← (← state.openHere .sequence).dropKeyStart).take .item state.place.next true

def key (state : Lexing) : Except Fault Lexing := do
  return (← (← state.openHere .mapping).dropKeyStart).take .key state.place.next (!state.inFlow)

/-- A colon makes a key of what may have been one. -/
def value (state : Lexing) : Except Fault Lexing := do
  match state.keyStarts with
  | some start :: others =>
    let marked := (state.pushAt start.tokens .key).openAt start.place.column start.tokens .mapping
    return { marked.take .value state.place.next false with keyStarts := none :: others }
  | _ => return (← state.openHere .mapping).take .value state.place.next (!state.inFlow)

/-- A token that may start a key. -/
def word (read : Place → Except Fault (Token × Place)) (state : Lexing) :
    Except Fault Lexing := do
  let state ← state.noteKeyStart
  let (token, after) ← read state.place
  return state.take token after false

def indented (budget : Nat) (state : Lexing) : Except Fault Lexing := do
  let state ← state.dropKeyStart
  let (text, after) ← Indented.read budget state.least state.place
  return state.take (.scalar (codePoints text) false) after true

def plain (budget : Nat) (state : Lexing) : Except Fault Lexing := do
  let state ← state.noteKeyStart
  let found := Plain.read budget state.manner state.least state.place
  return state.take (.scalar (codePoints found.text) true) found.after found.ended

/-- Whether the colon here stands behind a key. In a flow collection the newer rules let it start a
scalar in a sequence, and behind another colon while the start of a key is awaited. -/
def isValueMark (awaited : Bool) (state : Lexing) (rest : List Char) : Bool :=
  if state.version.isOlder && state.inFlow then true
  else match state.flows with
    | [] => endsIndicator rest
    | .sequence :: _ => endsIndicator rest
    | .mapping :: _ => !(awaited && state.tokens.head? == some .value) || endsIndicator rest

/-- Reads the token here, `awaited` telling whether a key may have started before the white space
in front of it. -/
def token (awaited : Bool) (budget : Nat) (state : Lexing) : Except Fault Lexing :=
  let place := state.place
  let atMargin := place.column == 0
  match place.rest with
  | [] => .error .malformed
  | c :: rest =>
    if c == '%' && atMargin then state.directive
    else if atMargin && isMarker startMarker place.rest then state.marker .documentStart
    else if atMargin && isMarker endMarker place.rest then
      state.marker (.documentEnd (isAlone (place.skip 3)))
    else if c == '[' then state.flowStart .sequence
    else if c == '{' then state.flowStart .mapping
    else if c == ']' then state.flowEnd .sequence
    else if c == '}' then state.flowEnd .mapping
    else if c == ',' then state.separator
    else if c == '-' && endsIndicator rest then state.item
    else if c == '?' && (state.inFlow || endsIndicator rest) then state.key
    else if c == ':' && state.isValueMark awaited rest then state.value
    else if c == '*' then
      state.word fun place =>
        (Label.name place.next).map fun found => (.reference found.1, found.2)
    else if c == '&' then
      state.word fun place => (Label.name place.next).map fun found => (.anchor found.1, found.2)
    else if c == '!' then
      state.word fun place =>
        (Label.tag state.version.isOlder place).map fun found => (.tag found.1, found.2)
    else if (c == '|' || c == '>') && !state.inFlow then state.indented budget
    else if c == '\'' || c == '"' then
      state.word fun place =>
        (Quoted.read budget place).map fun found => (.scalar found.1 false, found.2)
    else if Plain.canStart state.manner place.rest then state.plain budget
    else .error .malformed

/-- The next token, or nothing at the end of the text. `budget` is more than the number of
characters left. -/
def advance? (budget : Nat) (state : Lexing) : Except Fault (Option Lexing) := do
  let next ← state.approach
  if next.place.rest.isEmpty then return none
  else return some (← next.token state.isAwaited budget)

/-- The end of the text, where all collections of lines end. -/
def finish (state : Lexing) : Except Fault Lexing := do
  return (← (← state.approach).closeAll.dropKeyStart).push .textEnd

/-- The tokens read before a fault. Where a key may have started, nothing is sure from there on. -/
def upTo (fault : Fault) (state : Lexing) : List Token :=
  let sure := (state.keyStarts.reduceOption.map KeyStart.tokens).foldl min state.count
  state.tokens.reverse.take sure ++ [.fault fault]

/-- The tokens from here on. Each takes a character. -/
def tokensFrom : Nat → Lexing → List Token
  | 0, state => state.upTo .malformed
  | budget + 1, state =>
    match state.dropStale with
    | .error fault => state.upTo fault
    | .ok state =>
      match state.advance? (budget + 1) with
      | .error fault => state.upTo fault
      | .ok (some next) => tokensFrom budget next
      | .ok none =>
        match state.finish with
        | .error fault => state.upTo fault
        | .ok last => last.tokens.reverse

end Lexing

namespace Token

/-- The tokens of a text, the last of which is its end or a fault. A byte order mark may start it. -/
def ofText (text : List Char) : List Token :=
  let start : Place := { rest := text }
  let place := if start.head? = some '\uFEFF' then start.next else start
  Lexing.tokensFrom (text.length + 1) { place := place }

end Token

end Templating.Yaml
