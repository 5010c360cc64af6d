import Templating.Proofs.Engine.Sessions

/-!
Caches are transparent: in whatever order the engines of a family are called, each call gives what
it gives to an engine of its own that has not been used before.
-/

namespace Templating

namespace Engine

/-- What can be asked of an engine. -/
inductive Call where
  | compile (source name : String)
  | getTemplate (name : String)
  | resolve (name : String)
  | render (name : String) (origin : Origin)
  | renderString (source name : String) (origin : Origin)
  | clearCache
  | withFilter (name : String) (candidate : Registry.Candidate)

/-- What a call gives. Stored values count by their content. -/
inductive Answer where
  | template (template : Template)
  | resolved (resolved : Resolved)
  | output (text : String)
  | cleared
  | derived (engine : Engine)
  | failed (failure : Failure)
  | refused (fault : RegistryFault)

def Answer.of {α : Type} (success : α → Answer) : Except Failure α → Answer
  | .ok value => success value
  | .error failure => .failed failure

def answering {α : Type} (success : α → Answer) (use : EngineUse α) (session : Session) :
    Answer × Session :=
  (.of success (use session).1, (use session).2)

/-- Makes a call in a session. -/
def perform (engine : Engine) (loader : Option Loader) : Call → Session → Answer × Session
  | .compile source name => answering .template (ofFault (engine.compile source name))
  | .getTemplate name =>
    answering (fun stored => .template stored.content) (engine.getTemplate loader name)
  | .resolve name => answering (fun stored => .resolved stored.content) (engine.resolve loader name)
  | .render name origin => answering .output (engine.render loader name origin)
  | .renderString source name origin =>
    answering .output (engine.renderString loader source name origin)
  | .clearCache => answering (fun _ => .cleared) clearCache
  | .withFilter name candidate => fun session =>
    (match engine.withFilter name candidate with
      | .ok derived => .derived derived
      | .error fault => .refused fault, session)

variable {engine : Engine} {loader : Option Loader}

/-- From every coherent session the call gives this answer, and leaves a coherent session. -/
def Answers (engine : Engine) (loader : Option Loader) (call : Call) (answer : Answer) : Prop :=
  ∀ session : Session, session.Coherent loader engine.delimiters engine.options →
    (engine.perform loader call session).1 = answer ∧
      (engine.perform loader call session).2.Coherent loader engine.delimiters engine.options

theorem Answers.of_gives {call : Call} {α β : Type} {use : EngineUse α} {view : α → β}
    {success : α → Answer} (performs : engine.perform loader call = answering success use)
    (look : β → Answer) (alike : ∀ value, success value = look (view value))
    {expected : Except Failure β}
    (gives : EngineUse.Gives loader engine.delimiters engine.options use view expected) :
    Answers engine loader call (.of look expected) := by
  intro session coherent
  obtain ⟨same, kept⟩ := gives session _ _ coherent rfl
  rw [performs, answering]
  refine ⟨?_, kept⟩
  rw [← same]
  cases (use session).1 with
  | ok value => exact alike value
  | error failure => rfl

/-- A text is rendered without a look at the session. -/
theorem renderResolved_run (engine : Engine) (resolved : Resolved) (origin : Origin)
    (session : Session) :
    engine.renderResolved resolved origin session =
      ((engine.renderResolved resolved origin {}).1, session) := by
  cases origin <;> rfl

/-- Rendering what a use gives depends on what it gives only. -/
theorem render_gives {α : Type} {use : EngineUse α} {view : α → Resolved}
    {expected : Except Failure Resolved}
    (gives : EngineUse.Gives loader engine.delimiters engine.options use view expected)
    (origin : Origin) :
    EngineUse.Gives loader engine.delimiters engine.options
      (use >>= fun value => engine.renderResolved (view value) origin) id
      (expected >>= fun resolved => (engine.renderResolved resolved origin {}).1) := by
  intro before outcome after coherent run
  cases used : use before with
  | mk result between =>
      obtain ⟨same, kept⟩ := gives before result between coherent used
      rw [← same, Except.map_id]
      cases result with
      | error failure =>
          rw [Run.bind_error used] at run
          cases run
          exact ⟨rfl, kept⟩
      | ok value =>
          rw [Run.bind_ok used, renderResolved_run] at run
          cases run
          exact ⟨rfl, kept⟩

theorem ofFault_gives {α : Type} (outcome : Except Fault α) :
    EngineUse.Gives loader engine.delimiters engine.options (ofFault outcome) id
      (outcome.mapError .fault) := by
  intro before result after coherent run
  cases outcome with
  | ok value =>
      cases run
      exact ⟨rfl, coherent⟩
  | error fault =>
      cases run
      exact ⟨rfl, coherent⟩

theorem renderString_error {source name : String} {origin : Origin} {fault : Fault}
    (fails : engine.compile source name = .error fault) :
    engine.renderString loader source name origin = ofFault (.error fault) := by
  rw [renderString, fails]
  rfl

theorem renderString_ok {source name : String} {origin : Origin} {template : Template}
    (compiled : engine.compile source name = .ok template) :
    engine.renderString loader source name origin =
      (resolving (Resolver.template (engine.source loader) engine.options template) >>=
        fun resolved => engine.renderResolved resolved origin) := by
  rw [renderString, compiled]
  rfl

/-- Every call has one answer in all coherent sessions. -/
theorem exists_answers (engine : Engine) (loader : Option Loader) (call : Call) :
    ∃ answer, Answers engine loader call answer := by
  cases call with
  | compile source name => exact ⟨_, .of_gives rfl .template (fun _ => rfl) (ofFault_gives _)⟩
  | getTemplate name =>
      exact ⟨_, .of_gives rfl .template (fun _ => rfl) (engine.getTemplate_gives loader name)⟩
  | resolve name =>
      exact ⟨_, .of_gives rfl .resolved (fun _ => rfl) (engine.resolve_gives loader name)⟩
  | render name origin =>
      exact ⟨_, .of_gives rfl .output (fun _ => rfl)
        (render_gives (engine.resolve_gives loader name) origin)⟩
  | renderString source name origin =>
      cases compiled : engine.compile source name with
      | error fault =>
          have performs : engine.perform loader (.renderString source name origin) =
              answering .output (ofFault (.error fault)) := by
            rw [perform, renderString_error compiled]
          exact ⟨_, .of_gives performs .output (fun _ => rfl) (ofFault_gives _)⟩
      | ok template =>
          have performs : engine.perform loader (.renderString source name origin) =
              answering .output (resolving (Resolver.template (engine.source loader)
                engine.options template) >>= fun resolved =>
                  engine.renderResolved resolved origin) := by
            rw [perform, renderString_ok compiled]
          have gives := render_gives (resolving_gives (Resolver.template_simulates
            (engine.source_mirrors loader) template)) origin
          exact ⟨_, .of_gives performs .output (fun _ => rfl) gives⟩
  | clearCache => exact ⟨.cleared, fun session _ => ⟨rfl, .empty rfl rfl⟩⟩
  | withFilter name candidate => exact ⟨_, fun session coherent => ⟨rfl, coherent⟩⟩

/-- What a session has been used for before makes no difference to a call. -/
theorem perform_fresh (engine : Engine) {loader : Option Loader} (call : Call) {session : Session}
    (coherent : session.Coherent loader engine.delimiters engine.options) :
    (engine.perform loader call session).1 = (engine.perform loader call {}).1 ∧
      (engine.perform loader call session).2.Coherent loader engine.delimiters engine.options := by
  obtain ⟨answer, answers⟩ := exists_answers engine loader call
  obtain ⟨same, kept⟩ := answers session coherent
  rw [same, (answers {} (.empty rfl rfl)).1]
  exact ⟨rfl, kept⟩

/-- The engine that an answer brings, if any. -/
def Answer.engine? : Answer → Option Engine
  | .derived engine => some engine
  | _ => none

/-- A derived engine differs from its origin in filters only. -/
theorem perform_derives {call : Call} {session : Session} {derived : Engine}
    (brings : (engine.perform loader call session).1.engine? = some derived) :
    derived.delimiters = engine.delimiters ∧ derived.options = engine.options := by
  have absent {α : Type} (success : α → Answer) (plain : ∀ value, (success value).engine? = none)
      (use : EngineUse α) : (answering success use session).1.engine? = none := by
    rw [answering]
    cases (use session).1 with
    | ok value => exact plain value
    | error => rfl
  cases call with
  | withFilter name candidate =>
      rw [perform, withFilter] at brings
      cases added : engine.filters.withFilter name candidate with
      | ok filters =>
          rw [added] at brings
          cases brings
          exact ⟨rfl, rfl⟩
      | error =>
          rw [added] at brings
          cases brings
  | _ =>
      rw [perform, absent _ (fun _ => rfl)] at brings
      cases brings

end Engine

/-- Engines that were derived from each other, by number, and the session that they share. -/
structure EngineFamily where
  engines : List Engine
  session : Session := {}

namespace EngineFamily

open Engine

/-- Makes a call of one of the engines; an engine that it brings is the last one then. A number
that no engine has is not answered. -/
def perform (family : EngineFamily) (loader : Option Loader) (number : Nat) (call : Call) :
    Option Answer × EngineFamily :=
  match family.engines[number]? with
  | none => (none, family)
  | some engine =>
    let (answer, session) := engine.perform loader call family.session
    (some answer, ⟨family.engines ++ answer.engine?.toList, session⟩)

/-- The answers to calls that are made one after the other. -/
def answers (loader : Option Loader) : EngineFamily → List (Nat × Call) → List (Option Answer)
  | _, [] => []
  | family, (number, call) :: calls =>
    let (answer, after) := family.perform loader number call
    answer :: answers loader after calls

/-- The answers when the session is thrown away before each call. -/
def freshAnswers (loader : Option Loader) : List Engine → List (Nat × Call) → List (Option Answer)
  | _, [] => []
  | engines, (number, call) :: calls =>
    let (answer, after) := perform { engines := engines } loader number call
    answer :: freshAnswers loader after.engines calls

/-- The engines of a family differ in filters only, and their session is coherent. -/
structure WellFormed (family : EngineFamily) (loader : Option Loader) (delimiters : Delimiters)
    (options : Options) : Prop where
  alike : ∀ engine ∈ family.engines, engine.delimiters = delimiters ∧ engine.options = options
  coherent : family.session.Coherent loader delimiters options

variable {loader : Option Loader} {delimiters : Delimiters} {options : Options}

/-- Calls bring only engines that differ from the others in filters. -/
theorem perform_alike (loader : Option Loader) {family : EngineFamily}
    (alike : ∀ engine ∈ family.engines, engine.delimiters = delimiters ∧ engine.options = options)
    (number : Nat) (call : Call) : ∀ engine ∈ (family.perform loader number call).2.engines,
      engine.delimiters = delimiters ∧ engine.options = options := by
  cases found : family.engines[number]? with
  | none =>
      simp only [perform, found]
      exact alike
  | some caller =>
      obtain ⟨rfl, rfl⟩ := alike caller (List.mem_of_getElem? found)
      simp only [perform, found]
      intro engine member
      obtain old | new := List.mem_append.mp member
      · exact alike engine old
      · exact perform_derives (Option.mem_toList.mp new)

/-- A call is answered as with a session of its own, and the family stays well-formed. -/
theorem perform_eq {family : EngineFamily} (wellFormed : family.WellFormed loader delimiters options)
    (number : Nat) (call : Call) :
    (family.perform loader number call).1 =
        (perform { engines := family.engines } loader number call).1 ∧
      (family.perform loader number call).2.engines =
        (perform { engines := family.engines } loader number call).2.engines ∧
      (family.perform loader number call).2.WellFormed loader delimiters options := by
  have alike := perform_alike loader wellFormed.alike number call
  cases found : family.engines[number]? with
  | none =>
      simp only [perform, found]
      exact ⟨trivial, trivial, wellFormed⟩
  | some engine =>
      obtain ⟨rfl, rfl⟩ := wellFormed.alike engine (List.mem_of_getElem? found)
      obtain ⟨same, coherent⟩ := engine.perform_fresh call wellFormed.coherent
      simp only [perform, found, same] at alike ⊢
      exact ⟨trivial, trivial, alike, coherent⟩

theorem answers_eq {family : EngineFamily}
    (wellFormed : family.WellFormed loader delimiters options) (calls : List (Nat × Call)) :
    family.answers loader calls = freshAnswers loader family.engines calls := by
  induction calls generalizing family with
  | nil => rfl
  | cons first calls ih =>
      obtain ⟨number, call⟩ := first
      obtain ⟨same, engines, kept⟩ := perform_eq wellFormed number call
      rw [answers, freshAnswers]
      dsimp only
      rw [same, ih kept, engines]

/-- However the engines that come of one engine are called, every call is answered as if all caches
had been empty. The loader answers each name in one way; the table of its answers to the names that
come up stands for it. -/
theorem answers_fresh (loader : Option Loader) (engine : Engine) (calls : List (Nat × Call)) :
    answers loader { engines := [engine] } calls = freshAnswers loader [engine] calls := by
  have alike : ∀ other ∈ [engine], other.delimiters = engine.delimiters ∧
      other.options = engine.options := by
    intro other member
    cases List.mem_singleton.mp member
    exact ⟨rfl, rfl⟩
  exact answers_eq ⟨alike, .empty rfl rfl⟩ calls

end EngineFamily

end Templating
