import Templating.Dictionary
import Templating.Fault
import Templating.Grammar.Body
import Templating.Options

/-!
Templates with their parents and inclusions resolved. A child replaces the blocks of its parent,
from the root of the chain downwards; every template that can be reached by inclusion is resolved
beforehand.
-/

namespace Templating

/-- A body to render, the sources of the templates that its nodes come from, the bodies of the
templates it includes, and the chain of templates from itself to the root. -/
structure Resolved where
  name : String
  body : List Node
  sources : Dictionary String := []
  includes : Dictionary (List Node) := []
  chain : List String := []
deriving Repr, Inhabited

/-- A block that no ancestor has and that was put at the end. -/
structure OverrideWarning where
  block : String
  child : String
  parent : String
deriving DecidableEq, Repr

namespace OverrideWarning

def message (warning : OverrideWarning) : String :=
  "Block '" ++ warning.block ++ "' in '" ++ warning.child ++ "' has no counterpart in '" ++
    warning.parent ++ "'; appending it"

end OverrideWarning

namespace Node

mutual

/-- The blocks of a node that are in no other block of it, by name. -/
def outermost (found : Dictionary Node) : Node → Dictionary Node
  | block name body position => found.set name (block name body position)
  | condition _ body branches otherwise _ =>
    outermostOption (outermostBranches (outermostBody found body) branches) otherwise
  | loop _ _ body otherwise _ => outermostOption (outermostBody found body) otherwise
  | _ => found

def outermostBody (found : Dictionary Node) : List Node → Dictionary Node
  | [] => found
  | node :: rest => outermostBody (outermost found node) rest

def outermostBranch (found : Dictionary Node) : Branch → Dictionary Node
  | .mk _ body _ => outermostBody found body

def outermostBranches (found : Dictionary Node) : List Branch → Dictionary Node
  | [] => found
  | branch :: rest => outermostBranches (outermostBranch found branch) rest

def outermostOption (found : Dictionary Node) : Option (List Node) → Dictionary Node
  | none => found
  | some body => outermostBody found body

end

mutual

/-- The names of all blocks in a node, itself included. -/
def blockNames : Node → List String
  | block name body _ => name :: bodyBlockNames body
  | condition _ body branches otherwise _ =>
    bodyBlockNames body ++ branchesBlockNames branches ++ optionBlockNames otherwise
  | loop _ _ body otherwise _ => bodyBlockNames body ++ optionBlockNames otherwise
  | _ => []

def bodyBlockNames : List Node → List String
  | [] => []
  | node :: rest => node.blockNames ++ bodyBlockNames rest

def branchBlockNames : Branch → List String
  | .mk _ body _ => bodyBlockNames body

def branchesBlockNames : List Branch → List String
  | [] => []
  | branch :: rest => branchBlockNames branch ++ branchesBlockNames rest

def optionBlockNames : Option (List Node) → List String
  | none => []
  | some body => bodyBlockNames body

end

/-- A directive that includes a template, and its place. -/
structure Inclusion where
  name : String
  position : Option Position
deriving DecidableEq, Repr

mutual

/-- All inclusions in a node, in order. -/
def inclusions : Node → List Inclusion
  | inclusion name _ position => [⟨name, position⟩]
  | condition _ body branches otherwise _ =>
    bodyInclusions body ++ branchesInclusions branches ++ optionInclusions otherwise
  | loop _ _ body otherwise _ => bodyInclusions body ++ optionInclusions otherwise
  | block _ body _ => bodyInclusions body
  | _ => []

def bodyInclusions : List Node → List Inclusion
  | [] => []
  | node :: rest => node.inclusions ++ bodyInclusions rest

def branchInclusions : Branch → List Inclusion
  | .mk _ body _ => bodyInclusions body

def branchesInclusions : List Branch → List Inclusion
  | [] => []
  | branch :: rest => branchInclusions branch ++ branchesInclusions rest

def optionInclusions : Option (List Node) → List Inclusion
  | none => []
  | some body => bodyInclusions body

end

mutual

/-- Puts blocks in place of those of the same names. A replacement is not searched in turn. -/
def substitute (overrides : Dictionary Node) : Node → Node
  | block name body position =>
    match overrides.get? name with
    | some replacement => replacement
    | none => block name (substituteBody overrides body) position
  | condition test body branches otherwise position =>
    condition test (substituteBody overrides body) (substituteBranches overrides branches)
      (substituteOption overrides otherwise) position
  | loop targets iterable body otherwise position =>
    loop targets iterable (substituteBody overrides body)
      (substituteOption overrides otherwise) position
  | node => node

def substituteBody (overrides : Dictionary Node) : List Node → List Node
  | [] => []
  | node :: rest => node.substitute overrides :: substituteBody overrides rest

def substituteBranch (overrides : Dictionary Node) : Branch → Branch
  | .mk test body position => .mk test (substituteBody overrides body) position

def substituteBranches (overrides : Dictionary Node) : List Branch → List Branch
  | [] => []
  | branch :: rest => substituteBranch overrides branch :: substituteBranches overrides rest

def substituteOption (overrides : Dictionary Node) : Option (List Node) → Option (List Node)
  | none => none
  | some body => some (substituteBody overrides body)

end

end Node

/-- Why a template cannot be had: there is none of that name, or it does not compile. -/
inductive FetchFailure where
  | notFound
  | fault (fault : Fault)
deriving DecidableEq, Repr

/-- Where templates come from. Fetching may change the supply; `known` is at least the number of
names that it can give a template for. -/
structure Source (σ : Type) where
  fetch : String → σ → Except FetchFailure Template × σ
  known : σ → Nat

namespace Resolver

variable {σ : Type}

/-- The templates at hand, the supply of others, and the warnings so far. Errors keep them all. -/
structure State (σ : Type) where
  table : Dictionary Template
  supply : σ
  warnings : List OverrideWarning := []

abbrev Resolving (σ : Type) := ExceptT Fault (StateM (State σ))

/-- A template by name, if there is one. -/
def load (source : Source σ) (name : String) : Resolving σ (Option Template) := do
  let state ← get
  match state.table.get? name with
  | some template => return some template
  | none =>
    let (outcome, supply) := source.fetch name state.supply
    match outcome with
    | .ok template =>
      set { state with table := state.table.set name template, supply := supply }
      return some template
    | .error failure =>
      set { state with supply := supply }
      match failure with
      | .notFound => return none
      | .fault fault => throw fault

/-- A template that another one names at some place. -/
def loadReferenced (source : Source σ) (name : String) (referrer : Option Template)
    (position : Option Position) : Resolving σ Template := do
  match ← load source name with
  | some template => return template
  | none =>
    let referrerName := (referrer.map (·.name)).getD "?"
    throw (.of (.inheritance (.missingReferenced name referrerName)) position
      (referrer.map (·.source)))

/-- The part of a resolved template that its chain of parents gives. -/
structure Chain where
  body : List Node
  sources : Dictionary String
  names : List String
deriving Repr

def unknownBlocks (overrides : Dictionary Node) (parentBody : List Node) : Dictionary Node :=
  overrides.filter fun entry => !(Node.bodyBlockNames parentBody).contains entry.1

/-- The body of a parent with the outermost blocks of a child in it. -/
def override (mode : OverrideMode) (child : Template) (parentName : String)
    (parentBody : List Node) : Resolving σ (List Node) := do
  let overrides := Node.outermostBody [] child.body
  let unknown := unknownBlocks overrides parentBody
  match mode, unknown with
  | .strict, (name, block) :: _ =>
    throw (.of (.inheritance (.unknownBlock name child.name parentName)) block.position
      (some child.source))
  | _, _ =>
    modify fun state => { state with
      warnings := state.warnings ++ unknown.map fun entry => ⟨entry.1, child.name, parentName⟩ }
    return Node.substituteBody overrides parentBody ++ unknown.map (·.2)

/-- The templates from the first visit of a name on, and the name again. -/
def cycleThrough (visited : List String) (name : String) : List String :=
  visited.dropWhile (· != name) ++ [name]

/-- A cycle is blamed on the template that closes it. -/
def cycleFault (table : Dictionary Template) (visited : List String) (template : Template) :
    Fault :=
  let closing := ((visited.getLast?.bind table.get?).getD template)
  .of (.inheritance (.cyclic (cycleThrough visited template.name))) closing.parentPosition
    (some closing.source)

def lengthFault (limit : Nat) (visited : List String) (template : Template) : Fault :=
  .of (.inheritance (.tooLong limit (visited ++ [template.name]))) template.parentPosition
    (some template.source)

/-- Follows the parents of a template. `visited` holds the templates on the way to it, and so many
more may follow. -/
def chain (source : Source σ) (options : Options) (visited : List String) :
    Nat → Template → Resolving σ Chain
  | left, template => do
    if visited.contains template.name then
      throw (cycleFault (← get).table visited template)
    else match left with
      | 0 => throw (lengthFault options.depth visited template)
      | left + 1 =>
        match template.parent? with
        | none =>
          return { body := template.body, sources := [(template.name, template.source)],
                   names := [template.name] }
        | some parentName =>
          let parent ← loadReferenced source parentName (some template) template.parentPosition
          let above ← chain source options (visited ++ [template.name]) left parent
          let body ← override options.override template parentName above.body
          return { body := body, sources := above.sources.set template.name template.source,
                   names := template.name :: above.names }

/-- Resolves the inclusions that wait, the first in line first, and those of each included body
after them. Each turn includes a new name, so as many turns as there are names suffice. -/
def gather (source : Source σ) (options : Options) :
    Nat → List Node.Inclusion → Dictionary String → Dictionary (List Node) →
      Resolving σ (Dictionary String × Dictionary (List Node))
  | 0, _, sources, includes => return (sources, includes)
  | turns + 1, waiting, sources, includes => do
    match waiting.dropWhile fun next => includes.has next.name with
    | [] => return (sources, includes)
    | next :: rest =>
      let referrer := (← get).table.get? ((next.position.map (·.template)).getD "")
      let included ← loadReferenced source next.name referrer next.position
      let resolved ← chain source options [] options.depth included
      gather source options turns (rest ++ Node.bodyInclusions resolved.body)
        (sources.update resolved.sources) (includes.set next.name resolved.body)

/-- Resolves a template that is compiled already. -/
def template (source : Source σ) (options : Options) (template : Template) :
    Resolving σ Resolved := do
  modify fun state =>
    if state.table.has template.name then state
    else { state with table := state.table.set template.name template }
  let main ← chain source options [] options.depth template
  let state ← get
  let turns := state.table.length + source.known state.supply + 1
  let (sources, includes) ←
    gather source options turns (Node.bodyInclusions main.body) main.sources []
  return { name := template.name, body := main.body, sources := sources, includes := includes,
           chain := main.names }

/-- Resolves a template by name. -/
def named (source : Source σ) (options : Options) (name : String) : Resolving σ Resolved := do
  match ← load source name with
  | some found => template source options found
  | none => throw (.of (.inheritance (.missing name)) none none)

end Resolver

end Templating
