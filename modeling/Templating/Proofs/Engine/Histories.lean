import Mathlib
import Templating.Proofs.Engine.Retries

/-!
Families of engines whose loader changes from one call to the next: where the entries of the caches
come from, that they fit together, and when the loader is asked again.
-/

namespace Templating

open Resolver

namespace EngineFamily

open Engine Session

/-- A call of one of the engines, and the loader as it is then. Since no name is asked for twice in
one call, a table says all that the loader answers to it. -/
structure Step where
  loader : Option Loader
  number : Nat
  call : Call

def step (family : EngineFamily) (step : Step) : EngineFamily :=
  (family.perform step.loader step.number step.call).2

/-- The family after these steps. -/
def after (family : EngineFamily) (steps : List Step) : EngineFamily :=
  steps.foldl EngineFamily.step family

/-- The names that the loader is asked for in a step. -/
def asks (family : EngineFamily) (step : Step) : List String :=
  (family.step step).session.asked.drop family.session.asked.length

/-- The engines differ in filters only, and what is resolved is what the compiled templates that are
cached give. -/
structure Backed (family : EngineFamily) (delimiters : Delimiters) (options : Options) : Prop where
  alike : ∀ engine ∈ family.engines, engine.delimiters = delimiters ∧ engine.options = options
  resolves : ∀ name stored, family.session.resolved.get? name = some stored →
    family.session.compiled.Resolves options name stored.content

variable {family : EngineFamily} {delimiters : Delimiters} {options : Options}

/-- A step loads names and may keep a resolved template, or it clears the caches. -/
theorem step_cases (backed : family.Backed delimiters options) (step : Step) :
    (∃ names, family.session.Changes step.loader delimiters options names
      (family.step step).session) ∨
    (step.call = .clearCache ∧
      (family.step step).session = { family.session with compiled := {}, resolved := {} }) := by
  cases found : family.engines[step.number]? with
  | none =>
      simp only [EngineFamily.step, perform, found]
      exact .inl ⟨[], .refl _, .inl rfl⟩
  | some engine =>
      obtain ⟨rfl, rfl⟩ := backed.alike engine (List.mem_of_getElem? found)
      simp only [EngineFamily.step, perform, found]
      by_cases clears : step.call = .clearCache
      · rw [clears]
        exact .inr ⟨rfl, rfl⟩
      · exact .inl (engine.perform_changes step.loader clears family.session)

theorem asks_of_changes {names : List String} {step : Step}
    (changes : family.session.Changes step.loader delimiters options names
      (family.step step).session) : family.asks step = names := by
  rw [asks, changes.loads.asked, List.drop_left]

theorem asks_of_cleared {step : Step} (cleared : (family.step step).session =
    { family.session with compiled := {}, resolved := {} }) : family.asks step = [] := by
  rw [asks, cleared]
  exact List.drop_length

/-- The names that a step asks for are noted after the ones before. -/
theorem step_asked (backed : family.Backed delimiters options) (step : Step) :
    (family.step step).session.asked = family.session.asked ++ family.asks step := by
  obtain ⟨names, changes⟩ | ⟨_, cleared⟩ := step_cases backed step
  · rw [asks_of_changes changes]
    exact changes.loads.asked
  · rw [asks_of_cleared cleared, cleared, List.append_nil]

theorem step_session {caller : Engine} {step : Step}
    (found : family.engines[step.number]? = some caller) :
    (family.step step).session = (caller.perform step.loader step.call family.session).2 := by
  simp only [EngineFamily.step, perform, found]

theorem asks_of_perform {caller : Engine} {step : Step} {names : List String}
    (found : family.engines[step.number]? = some caller)
    (grown : (caller.perform step.loader step.call family.session).2.asked =
      family.session.asked ++ names) : family.asks step = names := by
  rw [asks, step_session found, grown, List.drop_left]

/-- Engines keep their numbers. -/
theorem step_engine {caller : Engine} {number : Nat} (found : family.engines[number]? = some caller)
    (step : Step) : (family.step step).engines[number]? = some caller := by
  cases called : family.engines[step.number]? with
  | none =>
      simp only [EngineFamily.step, perform, called]
      exact found
  | some other =>
      simp only [EngineFamily.step, perform, called]
      rw [List.getElem?_append_left (List.getElem?_eq_some_iff.mp found).1]
      exact found

namespace Backed

/-- Resolved templates stay backed when a use of an engine changes the session. -/
theorem changes {loader : Option Loader} {names : List String} {before after : Session}
    (resolves : ∀ name stored, before.resolved.get? name = some stored →
      before.compiled.Resolves options name stored.content)
    (changes : before.Changes loader delimiters options names after) {name : String}
    {stored : Stored Resolved} (found : after.resolved.get? name = some stored) :
    after.compiled.Resolves options name stored.content := by
  obtain same | ⟨_, other, new, filled, gives⟩ := changes.resolved
  · rw [same] at found
    exact (resolves name stored found).mono changes.loads
  · rw [filled, Cache.get?_fill, Option.or_eq_some_iff] at found
    obtain old | ⟨_, old⟩ := found
    · exact (resolves name stored old).mono changes.loads
    · split at old
      · rename_i same
        cases old
        rw [same]
        exact gives
      · cases old

theorem step (backed : family.Backed delimiters options) (step : Step) :
    (family.step step).Backed delimiters options where
  alike := perform_alike step.loader backed.alike step.number step.call
  resolves name stored found := by
    obtain ⟨names, changes⟩ | ⟨_, cleared⟩ := step_cases backed step
    · exact Backed.changes backed.resolves changes found
    · rw [cleared] at found
      cases found

theorem after (backed : family.Backed delimiters options) (steps : List Step) :
    (family.after steps).Backed delimiters options := by
  induction steps generalizing family with
  | nil => exact backed
  | cons first rest ih => exact ih (backed.step first)

/-- What is not compiled is not resolved either. -/
theorem unresolved (backed : family.Backed delimiters options) {name : String}
    (uncompiled : family.session.compiled.get? name = none) :
    family.session.resolved.get? name = none := by
  cases found : family.session.resolved.get? name with
  | none => rfl
  | some stored => exact absurd uncompiled (backed.resolves name stored found).cached

/-- A template that is compiled stays as it is, and is not asked for, as long as the caches are not
cleared. -/
theorem quiet (backed : family.Backed delimiters options) {name : String}
    {stored : Stored Template} (found : family.session.compiled.get? name = some stored)
    {steps : List Step} (keep : ∀ step ∈ steps, step.call ≠ .clearCache) :
    (family.after steps).session.compiled.get? name = some stored ∧
      ∃ names, (family.after steps).session.asked = family.session.asked ++ names ∧
        name ∉ names := by
  induction steps generalizing family with
  | nil => exact ⟨found, [], (List.append_nil _).symm, List.not_mem_nil⟩
  | cons first rest ih =>
      obtain ⟨keepsFirst, keepRest⟩ := List.forall_mem_cons.mp keep
      obtain ⟨names, changes⟩ | ⟨clears, _⟩ := step_cases backed first
      · obtain ⟨kept, others, asked, unasked⟩ :=
          ih (backed.step first) (changes.loads.retains found) keepRest
        refine ⟨kept, names ++ others, ?_, ?_⟩
        · rw [← List.append_assoc, ← changes.loads.asked]
          exact asked
        · refine List.not_mem_append (fun member => ?_) unasked
          rw [changes.loads.fresh name member] at found
          cases found
      · exact absurd clears keepsFirst

end Backed

/-- What becomes of an engine and those that are derived from it. -/
def reached (engine : Engine) (steps : List Step) : EngineFamily :=
  after { engines := [engine] } steps

theorem reached_backed (engine : Engine) (steps : List Step) :
    (reached engine steps).Backed engine.delimiters engine.options := by
  refine Backed.after ⟨fun other member => ?_, fun _ _ found => by cases found⟩ steps
  cases List.mem_singleton.mp member
  exact ⟨rfl, rfl⟩

theorem reached_append (engine : Engine) (steps others : List Step) :
    reached engine (steps ++ others) = (reached engine steps).after others :=
  List.foldl_append

/-- The entry of a name was made in this step: the loader was asked for the name, what it answered
then was compiled, and the entry has stayed in the cache since. -/
structure Filled (engine : Engine) (earlier : List Step) (step : Step) (later : List Step)
    (name : String) (stored : Stored Template) : Prop where
  absent : (reached engine earlier).session.compiled.get? name = none
  asked : name ∈ (reached engine earlier).asks step
  compiles : ∃ text, step.loader.bind (·.load? name) = some text ∧
    Template.compile engine.delimiters engine.options.depth name text = .ok stored.content
  stays : ∀ passed, passed <+: later →
    (reached engine (earlier ++ step :: passed)).session.compiled.get? name = some stored

theorem exists_filled (engine : Engine) {steps : List Step} {name : String}
    {stored : Stored Template}
    (found : (reached engine steps).session.compiled.get? name = some stored) :
    ∃ earlier step later, steps = earlier ++ step :: later ∧
      Filled engine earlier step later name stored := by
  induction steps using List.reverseRecOn with
  | nil => cases found
  | append_singleton steps last ih =>
      have here := found
      rw [reached_append] at found
      obtain ⟨names, changes⟩ | ⟨_, cleared⟩ := step_cases (reached_backed engine steps) last
      · have stepped : ((reached engine steps).step last).session.compiled.get? name =
            some stored := found
        by_cases asked : name ∈ names
        · refine ⟨steps, last, [], rfl, changes.loads.fresh name asked, ?_, ?_, ?_⟩
          · rw [asks_of_changes changes]
            exact asked
          · have filled := changes.loads.filled name asked
            rw [stepped] at filled
            exact Loader.source_fetch_ok.mp (Outcome.toOption_eq_some.mp filled.symm)
          · intro passed short
            rw [List.prefix_nil.mp short]
            exact here
        · rw [changes.loads.kept name asked] at stepped
          obtain ⟨earlier, step, later, rfl, filled⟩ := ih stepped
          refine ⟨earlier, step, later ++ [last], List.append_assoc _ _ _, filled.absent,
            filled.asked, filled.compiles, fun passed short => ?_⟩
          obtain whole | short := List.prefix_concat_iff.mp short
          · rw [whole, ← List.cons_append, ← List.append_assoc]
            exact here
          · exact filled.stays passed short
      · have emptied : ((reached engine steps).step last).session.compiled.get? name =
            some stored := found
        rw [cleared] at emptied
        cases emptied

/-- What holds of the caches after these steps, at each of which the loader may answer in another
way. -/
structure Coherence (engine : Engine) (steps : List Step) : Prop where
  /-- Each compiled template is what the loader gave at the step that made the entry. -/
  compiled : ∀ name stored, (reached engine steps).session.compiled.get? name = some stored →
    ∃ earlier step later, steps = earlier ++ step :: later ∧
      Filled engine earlier step later name stored
  /-- Each resolved template can be resolved again from the compiled ones that are there. -/
  resolved : ∀ name stored, (reached engine steps).session.resolved.get? name = some stored →
    (reached engine steps).session.compiled.Resolves engine.options name stored.content
  /-- What is compiled is not asked for again until the caches are cleared. -/
  quiet : ∀ name stored, (reached engine steps).session.compiled.get? name = some stored →
    ∀ more : List Step, (∀ step ∈ more, step.call ≠ .clearCache) →
      (reached engine (steps ++ more)).session.compiled.get? name = some stored ∧
        ∃ names, (reached engine (steps ++ more)).session.asked =
          (reached engine steps).session.asked ++ names ∧ name ∉ names
  /-- A step asks for no name twice, and for none that is compiled. -/
  once : ∀ step, ((reached engine steps).asks step).Nodup ∧
    ∀ name ∈ (reached engine steps).asks step,
      (reached engine steps).session.compiled.get? name = none
  /-- What was loaded and compiled is in the cache then. -/
  loaded : ∀ step name template, name ∈ (reached engine steps).asks step →
    ((Loader.source step.loader engine.delimiters engine.options).fetch name ()).1 =
      .ok template →
    ∃ stored, (reached engine (steps ++ [step])).session.compiled.get? name = some stored ∧
      stored.content = template
  /-- What could not be loaded or compiled leaves no entry in either cache. -/
  failed : ∀ step name failure, name ∈ (reached engine steps).asks step →
    ((Loader.source step.loader engine.delimiters engine.options).fetch name ()).1 =
      .error failure →
    (reached engine (steps ++ [step])).session.compiled.get? name = none ∧
      (reached engine (steps ++ [step])).session.resolved =
        (reached engine steps).session.resolved
  /-- The call that could not load or compile it asks for it first when it is made again. -/
  repeated : ∀ step name, name ∈ (reached engine steps).asks step →
    (reached engine (steps ++ [step])).session.compiled.get? name = none →
    ∀ loader, ∃ rest,
      (reached engine (steps ++ [step])).asks { step with loader := some loader } = name :: rest
  /-- So does every call that starts from a template without an entry, whichever engine it is made
  to. -/
  retried : ∀ name, (reached engine steps).session.compiled.get? name = none →
    ∀ loader number call, number < (reached engine steps).engines.length →
      call.target? = some name →
      ∃ rest, (reached engine steps).asks ⟨some loader, number, call⟩ = name :: rest

theorem reached_coherence (engine : Engine) (steps : List Step) : Coherence engine steps where
  compiled _ _ found := exists_filled engine found
  resolved := (reached_backed engine steps).resolves
  quiet name stored found more keep := by
    rw [reached_append]
    exact (reached_backed engine steps).quiet found keep
  once step := by
    obtain ⟨names, changes⟩ | ⟨_, cleared⟩ := step_cases (reached_backed engine steps) step
    · rw [asks_of_changes changes]
      exact ⟨changes.loads.distinct, changes.loads.fresh⟩
    · rw [asks_of_cleared cleared]
      exact ⟨List.nodup_nil, List.forall_mem_nil _⟩
  loaded step name template asked gives := by
    rw [reached_append]
    obtain ⟨names, changes⟩ | ⟨_, cleared⟩ := step_cases (reached_backed engine steps) step
    · rw [asks_of_changes changes] at asked
      have filled := changes.loads.filled name asked
      rw [gives] at filled
      exact Option.map_eq_some_iff.mp filled
    · rw [asks_of_cleared cleared] at asked
      cases asked
  failed step name failure asked fails := by
    rw [reached_append]
    obtain ⟨names, changes⟩ | ⟨_, cleared⟩ := step_cases (reached_backed engine steps) step
    · rw [asks_of_changes changes] at asked
      have filled := changes.loads.filled name asked
      rw [fails] at filled
      have absent : ((reached engine steps).step step).session.compiled.get? name = none :=
        Option.map_eq_none_iff.mp filled
      refine ⟨absent, ?_⟩
      obtain same | ⟨cached, _⟩ := changes.resolved
      · exact same
      · exact absurd absent (cached name asked)
    · rw [asks_of_cleared cleared] at asked
      cases asked
  repeated step name asked uncached loader := by
    have backed := reached_backed engine steps
    rw [reached_append] at uncached ⊢
    cases found : (reached engine steps).engines[step.number]? with
    | none =>
        simp only [asks, EngineFamily.step, perform, found, List.drop_length] at asked
        cases asked
    | some caller =>
        have grown := step_asked backed step
        obtain ⟨rest, again⟩ :=
          caller.perform_retries step.loader loader step.call (step_session found).symm grown asked
            uncached
        exact ⟨rest, asks_of_perform (step_engine found step) again⟩
  retried name uncompiled loader number call bound target := by
    have backed := reached_backed engine steps
    obtain ⟨rest, asked⟩ := (reached engine steps).engines[number].perform_asks loader target
      uncompiled (backed.unresolved uncompiled)
    exact ⟨rest, asks_of_perform (List.getElem?_eq_getElem bound) asked⟩

/-- The loader has a page but not its parent. -/
def withoutParent : Step :=
  ⟨some ⟨[("page", "\x7b% extends 'base' %\x7d")]⟩, 0, .resolve "page"⟩

/-- Now it has the parent but not the page. -/
def withParent : Step :=
  ⟨some ⟨[("base", "body")]⟩, 0, .resolve "page"⟩

/-- The parent is asked for when it is there, and the page is resolved that was there before. -/
theorem reached_coherence_late :
    (∃ rest, (reached {} [withoutParent]).asks withParent = "base" :: rest) ∧
      ∃ stored, (reached {} [withoutParent, withParent]).session.resolved.get? "page" =
          some stored ∧
        (reached {} [withoutParent, withParent]).session.compiled.Resolves {} "page"
          stored.content := by
  have asked : "base" ∈ (reached {} []).asks withoutParent := by
    have names : (reached {} []).asks withoutParent = ["page", "base"] := by cbv
    rw [names]
    exact List.mem_cons_of_mem _ List.mem_cons_self
  have absent : (reached {} [withoutParent]).session.compiled.get? "base" = none := by cbv
  refine ⟨(reached_coherence {} []).repeated withoutParent "base" asked absent _, ?_⟩
  have resolved : ∃ stored, (reached {} [withoutParent, withParent]).session.resolved.get? "page" =
      some stored := ⟨_, by cbv⟩
  obtain ⟨stored, found⟩ := resolved
  exact ⟨stored, found, (reached_coherence {} [withoutParent, withParent]).resolved _ _ found⟩

end EngineFamily

end Templating
