import Templating.Yaml.Directive
import Templating.Yaml.Plain
import Templating.Yaml.Quoted

/-!
Tokens of YAML and the state of reading them. Where collections are laid out in lines, their starts
and ends are tokens too, so that the columns do not matter any more. That a token starts a key shows
only at the colon behind it, so the places where a key may have started are kept until then.
-/

namespace Templating.Yaml

inductive CollectionShape where
  | sequence | mapping
deriving DecidableEq, Repr

inductive Token where
  | directive (directive : Directive)
  | documentStart
  /-- The end of a document; `alone` tells whether nothing follows on the line. -/
  | documentEnd (alone : Bool)
  | linesStart (shape : CollectionShape)
  | linesEnd
  | flowStart (shape : CollectionShape)
  | flowEnd (shape : CollectionShape)
  | item
  | separator
  | key
  | value
  | reference (name : String)
  | anchor (name : String)
  | tag (tag : WrittenTag)
  | scalar (text : CodePoints) (plain : Bool)
  | textEnd
  /-- From here on there are no tokens. -/
  | fault (fault : Fault)
deriving DecidableEq, Repr

/-- A place where a key may have started: how many tokens are before it, and whether nothing but a
key can stand there. -/
structure KeyStart where
  tokens : Nat
  required : Bool
  place : Place
deriving DecidableEq, Repr

namespace KeyStart

/-- The greatest length of a key without a mark. -/
def greatestLength : Nat := 1024

/-- Such a key ends on the line where it starts. -/
def isStale (start : KeyStart) (here : Place) : Bool :=
  start.place.line != here.line || greatestLength < here.index - start.place.index

end KeyStart

/-- The tokens read, the latest first, and their number; the columns of the open collections that are
laid out in lines and the shapes of the open flow collections, innermost first; whether a key may
start here, and where one may have started in each of the flow collections and around them. -/
structure Lexing where
  place : Place
  tokens : List Token := []
  count : Nat := 0
  columns : List Nat := []
  flows : List CollectionShape := []
  keyAllowed : Bool := true
  keyStarts : List (Option KeyStart) := [none]
  version : Version := .usual
deriving Repr

namespace Lexing

def inFlow (state : Lexing) : Bool :=
  !state.flows.isEmpty

/-- The column from which content of the innermost collection stands. -/
def least (state : Lexing) : Nat :=
  (state.columns.head?.map (· + 1)).getD 0

def manner (state : Lexing) : Manner :=
  ⟨state.inFlow, state.version.isOlder⟩

def push (token : Token) (state : Lexing) : Lexing :=
  { state with tokens := token :: state.tokens, count := state.count + 1 }

/-- Puts a token before which there are `before` others. -/
def pushAt (before : Nat) (token : Token) (state : Lexing) : Lexing :=
  { state with
    tokens := state.tokens.insertIdx (state.count - before) token
    count := state.count + 1 }

/-- Puts a token and goes on behind it. -/
def take (token : Token) (after : Place) (keyAllowed : Bool) (state : Lexing) : Lexing :=
  { state.push token with place := after, keyAllowed := keyAllowed }

/-! Places where a key may have started -/

/-- Whether it shows only later that a token starts a key. -/
def isAwaited (state : Lexing) : Bool :=
  state.keyStarts.any Option.isSome

/-- Gives up the places that are too far away to start a key. -/
def dropStale (state : Lexing) : Except Fault Lexing :=
  let isStale (start : Option KeyStart) := start.any (·.isStale state.place)
  if state.keyStarts.any fun start => isStale start && start.any (·.required) then
    .error .malformed
  else
    .ok { state with
      keyStarts := state.keyStarts.map fun start => if isStale start then none else start }

/-- Gives up the place in the innermost flow collection, or around all of them. -/
def dropKeyStart (state : Lexing) : Except Fault Lexing :=
  match state.keyStarts with
  | some start :: others =>
    if start.required then .error .malformed
    else .ok { state with keyStarts := none :: others }
  | _ => .ok state

/-- Notes that a key may start here. At the column of its collection nothing else can. -/
def noteKeyStart (state : Lexing) : Except Fault Lexing := do
  if !state.keyAllowed then return state
  let state ← state.dropKeyStart
  let required := !state.inFlow && state.columns.head? == some state.place.column
  let start : KeyStart := ⟨state.count, required, state.place⟩
  return { state with keyStarts := some start :: state.keyStarts.drop 1 }

/-! Collections laid out in lines -/

/-- Opens a collection at a column, unless one is open there, with a token before which there are
`before` others. -/
def openAt (column before : Nat) (shape : CollectionShape) (state : Lexing) : Lexing :=
  let isOpen := state.columns.head?.any fun innermost => decide (column ≤ innermost)
  if state.inFlow || isOpen then state
  else { state.pushAt before (.linesStart shape) with columns := column :: state.columns }

/-- An indicator may open a collection here, but only where a key may start. -/
def openHere (shape : CollectionShape) (state : Lexing) : Except Fault Lexing :=
  if state.inFlow || state.keyAllowed then .ok (state.openAt state.place.column state.count shape)
  else .error .malformed

/-- Closes the innermost collections whose columns satisfy a condition. Flow collections are not
closed so, nor what is around them. -/
def closeWhile (isOver : Nat → Bool) (state : Lexing) : Lexing :=
  if state.inFlow then state
  else
    let closed := (state.columns.takeWhile isOver).length
    { state with
      columns := state.columns.drop closed
      tokens := List.replicate closed .linesEnd ++ state.tokens
      count := state.count + closed }

def closeAll (state : Lexing) : Lexing :=
  state.closeWhile fun _ => true

end Lexing

end Templating.Yaml
