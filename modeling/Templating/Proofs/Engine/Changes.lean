import Templating.Proofs.Engine.Loads
import Templating.Proofs.Engine.Transparency

/-!
What a use of an engine changes of its session: it loads templates, and it may keep one more that is
resolved.
-/

namespace Templating

open Resolver

/-- What a use of an engine does to its session unless it clears the caches: it loads names, and it
keeps at most one more resolved template, and none if a name could not be loaded. -/
structure Session.Changes (loader : Option Loader) (delimiters : Delimiters) (options : Options)
    (names : List String) (before after : Session) : Prop where
  loads : before.Loads loader delimiters options names after
  resolved : after.resolved = before.resolved ∨ after.Caches names ∧ ∃ name stored,
    after.resolved = before.resolved.fill name stored ∧
      after.compiled.Resolves options name stored.content

namespace Engine

open Session

variable {engine : Engine} {loader : Option Loader} {name : String}

theorem unchanged (engine : Engine) (loader : Option Loader) (session : Session) :
    ∃ names, session.Changes loader engine.delimiters engine.options names session :=
  ⟨[], .refl session, .inl rfl⟩

theorem resolving_advances {α : Type} {resolver : Resolving Session α}
    (passes : Passes (Progresses loader engine.delimiters engine.options)
      (Advances loader engine.delimiters engine.options) resolver) (session : Session) :
    Advances loader engine.delimiters engine.options session (resolving resolver session).2 ∧
      ∀ value, (resolving resolver session).1 = .ok value →
        Progresses loader engine.delimiters engine.options session
          (resolving resolver session).2 := by
  obtain ⟨advances, progresses⟩ := passes { table := [], supply := session }
  rw [resolving_run]
  obtain ⟨names, loads, same⟩ := advances
  refine ⟨⟨names, loads.congr rfl rfl, same⟩, fun value succeeds => ?_⟩
  obtain ⟨others, further, kept, cached⟩ := progresses value (Outcome.mapError_eq_ok.mp succeeds)
  exact ⟨others, further.congr rfl rfl, kept, cached⟩

theorem named_advances (engine : Engine) (loader : Option Loader) (name : String) :
    Passes (Progresses loader engine.delimiters engine.options)
      (Advances loader engine.delimiters engine.options)
      (named (engine.source loader) engine.options name) :=
  named_passes (engine.source_moves loader) name

theorem resolving_resolves {session : Session} {resolved : Resolved}
    (succeeds : (resolving (named (engine.source loader) engine.options name) session).1 =
      .ok resolved) :
    (resolving (named (engine.source loader) engine.options name)
      session).2.compiled.Resolves engine.options name resolved := by
  rw [resolving_run] at succeeds ⊢
  exact named_resolves (Prod.ext (Outcome.mapError_eq_ok.mp succeeds) rfl)

theorem resolve_changes (engine : Engine) (loader : Option Loader) (name : String)
    (session : Session) :
    ∃ names, session.Changes loader engine.delimiters engine.options names
      (engine.resolve loader name session).2 := by
  cases cached : session.resolved.get? name with
  | some stored =>
      rw [resolve_cached cached]
      exact engine.unchanged loader session
  | none =>
      obtain ⟨advances, progresses⟩ :=
        resolving_advances (engine.named_advances loader name) session
      rw [resolve_uncached cached]
      cases resolved : resolving (named (engine.source loader) engine.options name) session with
      | mk outcome after =>
          rw [resolved] at advances progresses
          cases outcome with
          | error failure =>
              obtain ⟨names, loads, same⟩ := advances
              exact ⟨names, loads, .inl same⟩
          | ok value =>
              obtain ⟨names, loads, same, caches⟩ := progresses value rfl
              have resolves : after.compiled.Resolves engine.options name value := by
                have gives := resolving_resolves (congrArg Prod.fst resolved)
                rw [resolved] at gives
                exact gives
              exact ⟨names, loads.congr rfl rfl, .inr ⟨caches, name, ⟨after.serial, value⟩,
                congrArg (Cache.fill · name _) same, resolves⟩⟩

/-- A rendering leaves the session as what it renders leaves it. -/
theorem rendering_session (engine : Engine) {α : Type} (use : EngineUse α) (view : α → Resolved)
    (origin : Origin) (session : Session) :
    ((use >>= fun value => engine.renderResolved (view value) origin) session).2 =
      (use session).2 := by
  cases used : use session with
  | mk outcome after =>
      cases outcome with
      | error failure => rw [Run.bind_error used]
      | ok value => rw [Run.bind_ok used, renderResolved_run]

theorem render_session (engine : Engine) (loader : Option Loader) (name : String)
    (origin : Origin) (session : Session) :
    (engine.render loader name origin session).2 = (engine.resolve loader name session).2 :=
  engine.rendering_session _ _ origin session

theorem renderString_session {source name : String} {template : Template}
    (compiled : engine.compile source name = .ok template) (loader : Option Loader)
    (origin : Origin) (session : Session) :
    (engine.renderString loader source name origin session).2 =
      (resolving (Resolver.template (engine.source loader) engine.options template) session).2 := by
  rw [renderString_ok compiled]
  exact engine.rendering_session _ id origin session

theorem renderString_changes (engine : Engine) (loader : Option Loader) (source name : String)
    (origin : Origin) (session : Session) :
    ∃ names, session.Changes loader engine.delimiters engine.options names
      (engine.renderString loader source name origin session).2 := by
  cases compiled : engine.compile source name with
  | error fault =>
      rw [renderString_error compiled]
      exact engine.unchanged loader session
  | ok template =>
      have passes : Passes (Progresses loader engine.delimiters engine.options)
          (Advances loader engine.delimiters engine.options)
          (Resolver.template (engine.source loader) engine.options template) :=
        template_passes (engine.source_moves loader) template
      obtain ⟨names, loads, same⟩ := (resolving_advances passes session).1
      rw [renderString_session compiled]
      exact ⟨names, loads, .inl same⟩

theorem ofFault_session {α : Type} (outcome : Except Fault α) (session : Session) :
    (ofFault outcome session).2 = session := by
  cases outcome <;> rfl

/-- Every call but the one that clears the caches changes its session like this. -/
theorem perform_changes (engine : Engine) (loader : Option Loader) {call : Call}
    (keeps : call ≠ .clearCache) (session : Session) :
    ∃ names, session.Changes loader engine.delimiters engine.options names
      (engine.perform loader call session).2 := by
  cases call with
  | compile source name =>
      rw [perform, answering, ofFault_session]
      exact engine.unchanged loader session
  | getTemplate name =>
      obtain ⟨names, loads, _⟩ := engine.getTemplate_loads loader name session
      exact ⟨names, loads, .inl (engine.getTemplate_resolved loader name session)⟩
  | resolve name => exact engine.resolve_changes loader name session
  | render name origin =>
      rw [perform, answering, render_session]
      exact engine.resolve_changes loader name session
  | renderString source name origin =>
      exact engine.renderString_changes loader source name origin session
  | clearCache => exact absurd rfl keeps
  | withFilter name candidate => exact engine.unchanged loader session

end Engine

end Templating
