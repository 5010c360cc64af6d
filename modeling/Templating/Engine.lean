import Templating.Cache
import Templating.Loader
import Templating.Rendering

/-!
Engines: filters, options and delimiters for the templates of a loader, over caches of compiled and
of resolved templates. Engines that are derived by adding a filter share the caches, since filters
have no part in compiling and resolving.
-/

namespace Templating

/-- A cached value and the filling that made it. Two uses get the same object exactly when they get
the same number. -/
structure Stored (α : Type) where
  serial : Nat
  content : α
deriving Repr

/-- What the engines of one family share. `asked` lists the names that the loader was asked for, in
order; errors keep what was done before them. -/
structure Session where
  compiled : Cache String (Stored Template) := {}
  resolved : Cache String (Stored Resolved) := {}
  serial : Nat := 0
  asked : List String := []
  warnings : List OverrideWarning := []
deriving Repr

namespace Session

def compiledSlot : Cache.Slot Session String (Stored Template) where
  read session := session.compiled
  write cache session := { session with compiled := cache }

def resolvedSlot : Cache.Slot Session String (Stored Resolved) where
  read session := session.resolved
  write cache session := { session with resolved := cache }

end Session

structure Engine where
  filters : Registry := .builtin
  options : Options := {}
  delimiters : Delimiters := {}

/-- A use of an engine. The answers of a loader may change from one use to the next, so every use
is given the loader as it is then. -/
abbrev EngineUse := ExceptT Failure (StateM Session)

/-- The values that a rendering starts from: a frame, or a scope of the caller. -/
inductive Origin where
  | frame (values : Frame)
  | scope (scope : Scope)
deriving Repr

namespace Engine

def settings (engine : Engine) : Settings :=
  { filters := engine.filters, options := engine.options }

/-- Compiles a text, which no cache takes part in. -/
def compile (engine : Engine) (source name : String) : Except Fault Template :=
  Template.compile engine.delimiters engine.options.depth name source

def ofFault {α : Type} : Except Fault α → EngineUse α
  | .ok value => return value
  | .error fault => throw (.fault fault)

/-- The text of a template from the loader, which is then noted as asked. -/
def loadSource (loader : Option Loader) (name : String) : EngineUse String := do
  match loader with
  | none => throw (.notFound name)
  | some loader =>
    modify fun session => { session with asked := session.asked ++ [name] }
    match loader.load? name with
    | some source => return source
    | none => throw (.notFound name)

/-- A number that no stored value has yet. -/
def nextSerial : EngineUse Nat :=
  modifyGet fun session => (session.serial, { session with serial := session.serial + 1 })

/-- What is made, under a new number. -/
def storing {α : Type} (make : EngineUse α) : EngineUse (Stored α) := do
  let content ← make
  return ⟨← nextSerial, content⟩

/-- A compiled template, from the cache or the loader. -/
def getTemplate (engine : Engine) (loader : Option Loader) (name : String) :
    EngineUse (Stored Template) :=
  Session.compiledSlot.getOrMake name <| storing do
    let source ← loadSource loader name
    ofFault (engine.compile source name)

def fetched : Except Failure (Stored Template) → Except FetchFailure Template
  | .ok stored => .ok stored.content
  | .error (.fault fault) => .error (.fault fault)
  | .error _ => .error .notFound

/-- The engine's templates as the supply of a resolver. -/
def source (engine : Engine) (loader : Option Loader) : Source Session where
  fetch name session :=
    let (outcome, after) := (engine.getTemplate loader name).run session
    (fetched outcome, after)
  known session :=
    session.compiled.size + (loader.map (·.templates.length)).getD 0

/-- Runs a resolver of its own on the engine's templates. -/
def resolving {α : Type} (resolver : Resolver.Resolving Session α) : EngineUse α :=
  ExceptT.mk fun session =>
    let (outcome, state) := resolver.run { table := [], supply := session }
    let after := { state.supply with warnings := state.supply.warnings ++ state.warnings }
    match outcome with
    | .ok value => (.ok value, after)
    | .error fault => (.error (.fault fault), after)

/-- A resolved template, from the cache or made of compiled ones. -/
def resolve (engine : Engine) (loader : Option Loader) (name : String) :
    EngineUse (Stored Resolved) :=
  Session.resolvedSlot.getOrMake name <| storing <|
    resolving (Resolver.named (engine.source loader) engine.options name)

def renderResolved (engine : Engine) (resolved : Resolved) (origin : Origin) :
    EngineUse String :=
  ExceptT.mk fun session =>
    match origin with
    | .frame values => (resolved.render engine.settings values, session)
    | .scope scope => ((resolved.renderUnder engine.settings scope).1, session)

/-- Renders a template of the loader. -/
def render (engine : Engine) (loader : Option Loader) (name : String) (origin : Origin) :
    EngineUse String := do
  engine.renderResolved (← engine.resolve loader name).content origin

/-- Compiles and renders a text, which may refer to templates of the loader. -/
def renderString (engine : Engine) (loader : Option Loader) (source name : String)
    (origin : Origin) : EngineUse String := do
  let template ← ofFault (engine.compile source name)
  let resolved ← resolving (Resolver.template (engine.source loader) engine.options template)
  engine.renderResolved resolved origin

/-- The engine with one more filter. -/
def withFilter (engine : Engine) (name : String) (candidate : Registry.Candidate) :
    Except RegistryFault Engine := do
  return { engine with filters := ← engine.filters.withFilter name candidate }

def clearCache : EngineUse Unit :=
  modify fun session => { session with compiled := {}, resolved := {} }

end Engine

end Templating
