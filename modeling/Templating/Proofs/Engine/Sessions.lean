import Templating.Engine
import Templating.Proofs.Inheritance.Fetches
import Templating.Proofs.Inheritance.Simulation

/-!
What the caches of a session hold is what a loader gives without them. Every use of an engine keeps
it so, whether it succeeds or fails, and gives what it gives without caches.
-/

namespace Templating

open Resolver

namespace Cache

theorem get?_fill {α : Type} (cache : Cache String α) (name other : String) (value : α) :
    (cache.fill name value).get? other =
      (cache.get? other).or (if other = name then some value else none) := by
  refine (Dictionary.get?_append cache.entries [(name, value)] other).trans ?_
  rw [Dictionary.get?_cons]
  simp only [eq_comm]
  rfl

namespace Slot

variable {κ α ε σ : Type} [BEq κ] {slot : Slot σ κ α} {key : κ}
  {make : ExceptT ε (StateM σ) α} {state after : σ}

theorem getOrMake_found {value : α} (found : (slot.read state).get? key = some value) :
    slot.getOrMake key make state = (.ok value, state) := by
  rw [getOrMake, Run.get_bind, found]
  rfl

theorem getOrMake_error (missing : (slot.read state).get? key = none) {failure : ε}
    (failed : make state = (.error failure, after)) :
    slot.getOrMake key make state = (.error failure, after) := by
  rw [getOrMake, Run.get_bind, missing]
  exact Run.bind_error failed

/-- A value that was made is kept if making it has not left one for the key. -/
theorem getOrMake_ok (missing : (slot.read state).get? key = none) {value : α}
    (made : make state = (.ok value, after)) (still : (slot.read after).get? key = none) :
    slot.getOrMake key make state =
      (.ok value, slot.write ((slot.read after).fill key value) after) := by
  have entered : (slot.read after).getOrMake key (.ok value : Except ε α) =
      (.ok value, (slot.read after).fill key value) := by
    rw [Cache.getOrMake, still]
  rw [getOrMake, Run.get_bind, missing]
  refine (Run.bind_ok made).trans ?_
  exact congrArg (fun result => (result.1, slot.write result.2 after)) entered

end Slot

end Cache

namespace Session

/-- What the loader is asked for when a template is not cached; nothing, if there is no loader. -/
def asks (loader : Option Loader) (name : String) : List String :=
  loader.toList.map fun _ => name

/-- The session after the loader was asked for a name. -/
def asking (session : Session) (loader : Option Loader) (name : String) : Session :=
  { session with asked := session.asked ++ asks loader name }

/-- The session with a template that was compiled for a name. -/
def keeping (session : Session) (name : String) (template : Template) : Session :=
  { session with
    compiled := session.compiled.fill name ⟨session.serial, template⟩
    serial := session.serial + 1 }

end Session

/-- The caches hold nothing that a resolver without caches does not give. -/
structure Session.Coherent (loader : Option Loader) (delimiters : Delimiters) (options : Options)
    (session : Session) : Prop where
  compiled : ∀ name stored, session.compiled.get? name = some stored →
    ((Loader.source loader delimiters options).fetch name ()).1 = .ok stored.content
  resolved : ∀ name stored, session.resolved.get? name = some stored →
    (named (Loader.source loader delimiters options) options name
      { table := [], supply := () }).1 = .ok stored.content

namespace Session.Coherent

variable {loader : Option Loader} {delimiters : Delimiters} {options : Options}
  {before after : Session}

/-- Only the caches count. -/
theorem of_caches_eq (coherent : before.Coherent loader delimiters options)
    (compiled : after.compiled = before.compiled) (resolved : after.resolved = before.resolved) :
    after.Coherent loader delimiters options where
  compiled name stored found := coherent.compiled name stored (compiled ▸ found)
  resolved name stored found := coherent.resolved name stored (resolved ▸ found)

theorem empty {session : Session} (compiled : session.compiled = {})
    (resolved : session.resolved = {}) : session.Coherent loader delimiters options where
  compiled name stored found := by
    rw [compiled] at found
    cases found
  resolved name stored found := by
    rw [resolved] at found
    cases found

theorem fillCompiled (coherent : before.Coherent loader delimiters options) {name : String}
    {stored : Stored Template}
    (gives : ((Loader.source loader delimiters options).fetch name ()).1 = .ok stored.content)
    (compiled : after.compiled = before.compiled.fill name stored)
    (resolved : after.resolved = before.resolved) : after.Coherent loader delimiters options where
  compiled other found known := by
    rw [compiled, Cache.get?_fill, Option.or_eq_some_iff] at known
    obtain old | ⟨_, new⟩ := known
    · exact coherent.compiled other found old
    · split at new
      · rename_i same
        cases new
        rw [same]
        exact gives
      · cases new
  resolved other found known := coherent.resolved other found (resolved ▸ known)

theorem fillResolved (coherent : before.Coherent loader delimiters options) {name : String}
    {stored : Stored Resolved}
    (gives : (named (Loader.source loader delimiters options) options name
      { table := [], supply := () }).1 = .ok stored.content)
    (compiled : after.compiled = before.compiled)
    (resolved : after.resolved = before.resolved.fill name stored) :
    after.Coherent loader delimiters options where
  compiled other found known := coherent.compiled other found (compiled ▸ known)
  resolved other found known := by
    rw [resolved, Cache.get?_fill, Option.or_eq_some_iff] at known
    obtain old | ⟨_, new⟩ := known
    · exact coherent.resolved other found old
    · split at new
      · rename_i same
        cases new
        rw [same]
        exact gives
      · cases new

end Session.Coherent

/-- From every coherent session the use ends like this, as far as one looks at its value, and leaves
a coherent session. -/
def EngineUse.Gives {α β : Type} (loader : Option Loader) (delimiters : Delimiters)
    (options : Options) (use : EngineUse α) (view : α → β) (expected : Except Failure β) : Prop :=
  ∀ before outcome after, before.Coherent loader delimiters options →
    use before = (outcome, after) →
    outcome.map view = expected ∧ after.Coherent loader delimiters options

namespace Engine

variable {engine : Engine} {loader : Option Loader} {name : String}

/-- The failure to get a template that a loader does not give. -/
def missingFailure (name : String) : FetchFailure → Failure
  | .notFound => .notFound name
  | .fault fault => .fault fault

section

variable {α : Type} {make : EngineUse α} {session after : Session}

theorem storing_ok {content : α} (made : make session = (.ok content, after)) :
    storing make session = (.ok ⟨after.serial, content⟩, { after with serial := after.serial + 1 }) :=
  Run.bind_ok made

theorem storing_error {failure : Failure} (failed : make session = (.error failure, after)) :
    storing make session = (.error failure, after) :=
  Run.bind_error failed

end

theorem getTemplate_cached {session : Session} {stored : Stored Template}
    (cached : session.compiled.get? name = some stored) :
    engine.getTemplate loader name session = (.ok stored, session) :=
  Cache.Slot.getOrMake_found cached

theorem loadSource_run (loader : Option Loader) (name : String) (session : Session) :
    loadSource loader name session =
      (match loader.bind (·.load? name) with
        | some text => .ok text
        | none => .error (.notFound name), session.asking loader name) := by
  cases loader with
  | none => exact congrArg (Prod.mk _) (by rw [Session.asking, Session.asks, Option.toList_none,
      List.map_nil, List.append_nil])
  | some loader =>
      have asks : loadSource (some loader) name session = (match loader.load? name with
          | some source => (return source : EngineUse String)
          | none => throw (Failure.notFound name)) (session.asking (some loader) name) :=
        rfl
      rw [asks, Option.bind_some]
      cases loader.load? name <;> rfl

/-- A template that is not cached is what the loader gives for its name, and is cached then. -/
theorem getTemplate_uncached {session : Session} (uncached : session.compiled.get? name = none) :
    engine.getTemplate loader name session =
      match ((Loader.source loader engine.delimiters engine.options).fetch name ()).1 with
      | .error failure => (.error (missingFailure name failure), session.asking loader name)
      | .ok template =>
        (.ok ⟨(session.asking loader name).serial, template⟩,
          (session.asking loader name).keeping name template) := by
  rw [getTemplate, Loader.source_fetch]
  have loads := loadSource_run loader name session
  cases loaded : loader.bind (·.load? name) with
  | none =>
      rw [loaded] at loads
      exact Cache.Slot.getOrMake_error uncached (storing_error (Run.bind_error loads))
  | some text =>
      rw [loaded] at loads
      dsimp only
      cases compiled : Template.compile engine.delimiters engine.options.depth name text with
      | error fault =>
          have fails : ofFault (engine.compile text name) (session.asking loader name) =
              (.error (.fault fault), session.asking loader name) := by
            rw [compile, compiled]
            rfl
          exact Cache.Slot.getOrMake_error uncached
            (storing_error ((Run.bind_ok loads).trans fails))
      | ok template =>
          have gives : ofFault (engine.compile text name) (session.asking loader name) =
              (.ok template, session.asking loader name) := by
            rw [compile, compiled]
            rfl
          exact Cache.Slot.getOrMake_ok uncached (storing_ok ((Run.bind_ok loads).trans gives))
            uncached

theorem getTemplate_resolved (engine : Engine) (loader : Option Loader) (name : String)
    (session : Session) :
    (engine.getTemplate loader name session).2.resolved = session.resolved := by
  cases cached : session.compiled.get? name with
  | some stored => rw [getTemplate_cached cached]
  | none =>
      rw [getTemplate_uncached cached]
      cases ((Loader.source loader engine.delimiters engine.options).fetch name ()).1 <;> rfl

theorem getTemplate_gives (engine : Engine) (loader : Option Loader) (name : String) :
    EngineUse.Gives loader engine.delimiters engine.options (engine.getTemplate loader name)
      (·.content)
      (((Loader.source loader engine.delimiters engine.options).fetch name ()).1.mapError
        (missingFailure name)) := by
  intro before outcome after coherent run
  cases cached : before.compiled.get? name with
  | some stored =>
      rw [getTemplate_cached cached] at run
      cases run
      rw [coherent.compiled name stored cached]
      exact ⟨rfl, coherent⟩
  | none =>
      rw [getTemplate_uncached cached] at run
      cases fetch : ((Loader.source loader engine.delimiters engine.options).fetch name ()).1 with
      | error failure =>
          rw [fetch] at run
          cases run
          exact ⟨rfl, coherent.of_caches_eq rfl rfl⟩
      | ok template =>
          rw [fetch] at run
          cases run
          exact ⟨rfl, coherent.fillCompiled fetch rfl rfl⟩

/-- The failures of getting a template and of fetching it are the same. -/
theorem fetched_eq {name : String} {outcome : Except Failure (Stored Template)}
    {fetch : Except FetchFailure Template}
    (same : outcome.map (·.content) = fetch.mapError (missingFailure name)) :
    fetched outcome = fetch := by
  cases outcome with
  | ok stored =>
      cases fetch with
      | ok => exact congrArg Except.ok (Except.ok.inj same)
      | error => cases same
  | error failure =>
      rcases fetch with (_ | fault) | template
      · cases same
        rfl
      · cases same
        rfl
      · cases same

/-- The engine is a source like its loader. -/
theorem source_mirrors (engine : Engine) (loader : Option Loader) :
    Mirrors (engine.source loader) (Loader.source loader engine.delimiters engine.options)
      (Session.Coherent loader engine.delimiters engine.options) where
  fetch name session coherent :=
    fetched_eq (engine.getTemplate_gives loader name session _ _ coherent rfl).1
  keeps name session coherent :=
    (engine.getTemplate_gives loader name session _ _ coherent rfl).2
  known _ := Nat.le_add_left _ _

theorem resolving_run {α : Type} (resolver : Resolving Session α) (session : Session) :
    resolving resolver session =
      ((resolver { table := [], supply := session }).1.mapError .fault,
        { (resolver { table := [], supply := session }).2.supply with
          warnings := (resolver { table := [], supply := session }).2.supply.warnings ++
            (resolver { table := [], supply := session }).2.warnings }) := by
  rw [resolving, ExceptT.mk, ExceptT.run]
  cases resolver { table := [], supply := session } with
  | mk outcome state => cases outcome <;> rfl

/-- A resolver leaves the templates that were resolved before it. -/
theorem resolving_resolved (engine : Engine) (loader : Option Loader) (name : String)
    (session : Session) :
    (resolving (named (engine.source loader) engine.options name) session).2.resolved =
      session.resolved := by
  have moves : Moves (engine.source loader) (fun before after => after.resolved = before.resolved)
      fun before after => after.resolved = before.resolved :=
    { refl := fun _ => rfl
      trans := fun first second => second.trans first
      whole := id
      last := fun first second => second.trans first
      fetch := fun name session =>
        ⟨engine.getTemplate_resolved loader name session, fun _ _ =>
          engine.getTemplate_resolved loader name session⟩ }
  rw [resolving_run]
  exact (named_passes moves name { table := [], supply := session }).1

/-- A resolver over the engine's templates gives what it gives over the loader's. -/
theorem resolving_gives {α : Type} {engine : Engine} {loader : Option Loader}
    {resolver : Resolving Session α} {plain : Resolving Unit α}
    (simulates : Simulates (Session.Coherent loader engine.delimiters engine.options)
      resolver plain) :
    EngineUse.Gives loader engine.delimiters engine.options (resolving resolver) id
      ((plain { table := [], supply := () }).1.mapError .fault) := by
  intro before outcome after coherent run
  obtain ⟨plainRan, kept⟩ := simulates { table := [], supply := before } coherent _ _ rfl
  have plainRan := congrArg Prod.fst plainRan
  rw [resolving_run] at run
  cases run
  rw [Except.map_id]
  exact ⟨congrArg (Except.mapError Failure.fault) plainRan.symm, kept.of_caches_eq rfl rfl⟩

theorem resolve_cached {session : Session} {stored : Stored Resolved}
    (cached : session.resolved.get? name = some stored) :
    engine.resolve loader name session = (.ok stored, session) :=
  Cache.Slot.getOrMake_found cached

/-- A template that is not cached is resolved, and kept if this succeeds. -/
theorem resolve_uncached {session : Session} (uncached : session.resolved.get? name = none) :
    engine.resolve loader name session =
      match resolving (named (engine.source loader) engine.options name) session with
      | (.error failure, after) => (.error failure, after)
      | (.ok resolved, after) =>
        (.ok ⟨after.serial, resolved⟩, { after with
          serial := after.serial + 1
          resolved := after.resolved.fill name ⟨after.serial, resolved⟩ }) := by
  have kept := engine.resolving_resolved loader name session
  cases resolved : resolving (named (engine.source loader) engine.options name) session with
  | mk outcome after =>
      rw [resolved] at kept
      cases outcome with
      | error failure => exact Cache.Slot.getOrMake_error uncached (storing_error resolved)
      | ok value =>
          refine Cache.Slot.getOrMake_ok uncached (storing_ok resolved) ?_
          show after.resolved.get? name = none
          rw [kept, uncached]

theorem resolve_gives (engine : Engine) (loader : Option Loader) (name : String) :
    EngineUse.Gives loader engine.delimiters engine.options (engine.resolve loader name)
      (·.content)
      ((named (Loader.source loader engine.delimiters engine.options) engine.options name
        { table := [], supply := () }).1.mapError .fault) := by
  intro before outcome after coherent run
  cases cached : before.resolved.get? name with
  | some stored =>
      rw [resolve_cached cached] at run
      cases run
      rw [coherent.resolved name stored cached]
      exact ⟨rfl, coherent⟩
  | none =>
      rw [resolve_uncached cached] at run
      have gives := resolving_gives (named_simulates (engine.source_mirrors loader) name)
      cases resolved : resolving (named (engine.source loader) engine.options name) before with
      | mk result between =>
          obtain ⟨same, kept⟩ := gives before result between coherent resolved
          rw [Except.map_id] at same
          rw [resolved] at run
          rw [← same]
          cases result with
          | error failure =>
              cases run
              exact ⟨rfl, kept⟩
          | ok value =>
              cases run
              exact ⟨rfl, kept.fillResolved (Outcome.mapError_eq_ok.mp same.symm) rfl rfl⟩

end Engine

end Templating
