import Templating.Proofs.Engine.Changes
import Templating.Proofs.Inheritance.Resumption

/-!
Templates that could not be loaded are tried again: by every call that starts from them, and by the
call that failed if it is made again.
-/

namespace Templating

open Resolver

namespace Engine

open Session

variable {engine : Engine} {loader : Option Loader} {name : String}

theorem getTemplate_asks (engine : Engine) (loader : Loader) {session : Session}
    (uncached : session.compiled.get? name = none) :
    (engine.getTemplate (some loader) name session).2.asked = session.asked ++ [name] := by
  rw [getTemplate_uncached uncached]
  cases ((Loader.source (some loader) engine.delimiters engine.options).fetch name ()).1 <;> rfl

/-- The template that a call starts from, if it does. -/
def Call.target? : Call → Option String
  | .getTemplate name | .resolve name | .render name _ => some name
  | _ => none

theorem resolve_asked {session : Session} (unresolved : session.resolved.get? name = none) :
    (engine.resolve loader name session).2.asked =
      (resolving (named (engine.source loader) engine.options name) session).2.asked := by
  rw [resolve_uncached unresolved]
  cases resolving (named (engine.source loader) engine.options name) session with
  | mk outcome after => cases outcome <;> rfl

theorem resolve_asks {loader : Loader} {session : Session}
    (uncompiled : session.compiled.get? name = none)
    (unresolved : session.resolved.get? name = none) :
    ∃ rest, (engine.resolve (some loader) name session).2.asked = session.asked ++ name :: rest := by
  have begins : Advances (some loader) engine.delimiters engine.options
      (engine.getTemplate (some loader) name session).2
      (named (engine.source (some loader)) engine.options name
        { table := [], supply := session }).2.supply :=
    (named_begins (engine.source_moves (some loader)) { table := [], supply := session } rfl).1
  obtain ⟨names, loads, _⟩ := begins
  refine ⟨names, ?_⟩
  rw [resolve_asked unresolved, resolving_run, loads.asked, engine.getTemplate_asks loader uncompiled,
    List.append_assoc]
  rfl

/-- A call that starts from a template without an entry asks the loader for it at once. -/
theorem perform_asks (engine : Engine) (loader : Loader) {call : Call}
    (target : call.target? = some name) {session : Session}
    (uncompiled : session.compiled.get? name = none)
    (unresolved : session.resolved.get? name = none) :
    ∃ rest, (engine.perform (some loader) call session).2.asked =
      session.asked ++ name :: rest := by
  cases call with
  | getTemplate other =>
      cases target
      exact ⟨[], engine.getTemplate_asks loader uncompiled⟩
  | resolve other =>
      cases target
      exact resolve_asks uncompiled unresolved
  | render other origin =>
      cases target
      rw [perform, answering, render_session]
      exact resolve_asks uncompiled unresolved
  | _ => cases target

/-- A fetch that fails asked the loader and left the caches as they were. -/
theorem fetch_fails {session after : Session} {failure : FetchFailure}
    (failed : (engine.source loader).fetch name session = (.error failure, after)) :
    session.compiled.get? name = none ∧ after = session.asking loader name := by
  rw [source_fetch_eq] at failed
  obtain ⟨fails, rfl⟩ := Prod.mk.inj failed
  cases cached : session.compiled.get? name with
  | some stored =>
      rw [getTemplate_cached cached] at fails
      cases fails
  | none =>
      refine ⟨rfl, ?_⟩
      rw [getTemplate_uncached cached] at fails ⊢
      cases fetch : ((Loader.source loader engine.delimiters engine.options).fetch name ()).1 with
      | error => rfl
      | ok template =>
          rw [fetch] at fails
          cases fails

/-- The engine with one loader, and with another one when the session is this. -/
def retrial (engine : Engine) (loader later : Option Loader) (left : Session) :
    Resumption Session Session :=
  engine.resumption loader left (engine.source later) left (engine.source_moves later)
    fun name stored found => by
      rw [source_fetch_eq, getTemplate_cached found]
      rfl

section

variable {α : Type} {later : Loader} {session left : Session} {after : State Session}
  {names : List String} (compiled : left.compiled = after.supply.compiled)
  (kept : left.asked = after.supply.asked)

include compiled kept

theorem toward_left (outcome : Except Fault α) :
    (engine.retrial loader (some later) left).Toward (outcome, after) := by
  refine ⟨⟨[], (Loads.refl _).congr compiled kept⟩, ?_⟩
  rintro fault _ first ⟨others, loads, _⟩
  exact ⟨others, loads.congr compiled kept⟩

/-- Where a name was asked for in vain, the first run failed there and the second starts there. -/
theorem meets_retries {outcome : Except Fault α} {again : Except Fault α × State Session}
    (meets : (engine.retrial loader (some later) left).Meets session (outcome, after) again)
    (grown : left.asked = session.asked ++ names) (asked : name ∈ names)
    (uncached : left.compiled.get? name = none) :
    (∃ fault, outcome = .error fault) ∧
      ∃ rest, again.2.supply.asked = left.asked ++ name :: rest := by
  cases meets with
  | redone stepped =>
      obtain ⟨others, loads, _, cached⟩ := stepped
      have same := loads.asked
      rw [← kept, grown] at same
      rw [List.append_cancel_left same] at asked
      exact absurd (compiled ▸ uncached) (cached name asked)
  | @stuck missing _ _ _ _ _ stepped failed onward =>
      obtain ⟨others, loads, _, cached⟩ := stepped
      obtain ⟨_, last⟩ := fetch_fails failed
      have same : session.asked ++ names = session.asked ++ (others ++ asks loader missing) := by
        rw [← grown, kept, last, ← List.append_assoc, ← loads.asked]
        rfl
      rw [List.append_cancel_left same] at asked
      obtain earlier | here := List.mem_append.mp asked
      · rw [compiled, last] at uncached
        exact absurd uncached (cached name earlier)
      · obtain ⟨_, _, rfl⟩ := List.mem_map.mp here
        obtain ⟨⟨rest, further, _⟩, _⟩ := onward
        have first := engine.getTemplate_asks later uncached
        exact ⟨⟨_, rfl⟩, rest, further.asked.trans
          ((congrArg (· ++ rest) first).trans (List.append_assoc _ _ _))⟩

end

/-- A resolver that could not load a name fails, and asks for this name first when it is run again
from the session that it left. -/
theorem resolving_retries {α : Type} {later : Loader} {run again : Resolving Session α}
    {session left : Session}
    (resumes : (engine.retrial loader (some later) left).Resumes run again)
    (ended : (resolving run session).2 = left) {names : List String}
    (grown : left.asked = session.asked ++ names) (asked : name ∈ names)
    (uncached : left.compiled.get? name = none) :
    (∃ failure, (resolving run session).1 = .error failure) ∧
      ∃ rest, (resolving again left).2.asked = left.asked ++ name :: rest := by
  rw [resolving_run] at ended
  rw [resolving_run, resolving_run]
  have meets := resumes.meets { table := [], supply := session }
  cases ran : run { table := [], supply := session } with
  | mk outcome after =>
      rw [ran] at ended meets
      have compiled : left.compiled = after.supply.compiled := ended ▸ rfl
      have kept : left.asked = after.supply.asked := ended ▸ rfl
      obtain ⟨⟨fault, rfl⟩, further⟩ := meets_retries compiled kept
        (meets (toward_left compiled kept outcome)) grown asked uncached
      exact ⟨⟨_, rfl⟩, further⟩

/-- Nothing was asked for. -/
theorem not_asked {asked names : List String} (grown : asked = asked ++ names) : name ∉ names := by
  rw [List.self_eq_append_right.mp grown]
  exact List.not_mem_nil

theorem getTemplate_retries (engine : Engine) (loader : Option Loader) (later : Loader)
    (target : String) {session after : Session}
    (ended : (engine.getTemplate loader target session).2 = after) {names : List String}
    (grown : after.asked = session.asked ++ names) (asked : name ∈ names)
    (uncached : after.compiled.get? name = none) :
    ∃ rest, (engine.getTemplate (some later) target after).2.asked = after.asked ++ name :: rest := by
  cases cached : session.compiled.get? target with
  | some stored =>
      rw [getTemplate_cached cached] at ended
      rw [← ended] at grown
      exact absurd asked (not_asked grown)
  | none =>
      rw [getTemplate_uncached cached] at ended
      cases fetch : ((Loader.source loader engine.delimiters engine.options).fetch target ()).1 with
      | error failure =>
          rw [fetch] at ended
          have last : session.asking loader target = after := ended
          rw [← last] at grown uncached ⊢
          rw [← List.append_cancel_left grown] at asked
          obtain ⟨_, _, rfl⟩ := List.mem_map.mp asked
          exact ⟨[], engine.getTemplate_asks later uncached⟩
      | ok template =>
          rw [fetch] at ended
          have last : (session.asking loader target).keeping target template = after := ended
          rw [← last] at grown uncached
          rw [← List.append_cancel_left grown] at asked
          obtain ⟨_, _, rfl⟩ := List.mem_map.mp asked
          rw [keeping_get? (session.asking loader _) template cached] at uncached
          cases uncached

theorem resolve_retries (engine : Engine) (loader : Option Loader) (later : Loader)
    (target : String) {session after : Session}
    (ended : (engine.resolve loader target session).2 = after) {names : List String}
    (grown : after.asked = session.asked ++ names) (asked : name ∈ names)
    (uncached : after.compiled.get? name = none) :
    ∃ rest, (engine.resolve (some later) target after).2.asked = after.asked ++ name :: rest := by
  cases cached : session.resolved.get? target with
  | some stored =>
      rw [resolve_cached cached] at ended
      rw [← ended] at grown
      exact absurd asked (not_asked grown)
  | none =>
      obtain ⟨⟨_, _, same⟩, _⟩ :=
        resolving_advances (engine.named_advances loader target) session
      rw [resolve_uncached cached] at ended
      cases ran : resolving (named (engine.source loader) engine.options target) session with
      | mk outcome between =>
          have resumes : (engine.retrial loader (some later) between).Resumes
              (named (engine.source loader) engine.options target)
              (named (engine.source (some later)) engine.options target) :=
            Resumption.named_resumes _ (engine.source_counted loader)
              (engine.source_counted (some later)) engine.options target
          rw [ran] at ended same
          cases outcome with
          | ok value =>
              rw [← ended] at grown uncached
              obtain ⟨⟨failure, fails⟩, _⟩ :=
                resolving_retries resumes (congrArg Prod.snd ran) grown asked uncached
              rw [ran] at fails
              cases fails
          | error failure =>
              have ended : between = after := ended
              rw [← ended] at grown uncached ⊢
              obtain ⟨_, again⟩ :=
                resolving_retries resumes (congrArg Prod.snd ran) grown asked uncached
              rw [resolve_asked ((congrArg (Cache.get? · target) same).trans cached)]
              exact again

theorem renderString_retries (engine : Engine) (loader : Option Loader) (later : Loader)
    (source target : String) (origin : Origin) {session after : Session}
    (ended : (engine.renderString loader source target origin session).2 = after)
    {names : List String} (grown : after.asked = session.asked ++ names) (asked : name ∈ names)
    (uncached : after.compiled.get? name = none) :
    ∃ rest, (engine.renderString (some later) source target origin after).2.asked =
      after.asked ++ name :: rest := by
  cases compiled : engine.compile source target with
  | error fault =>
      rw [renderString_error compiled, ofFault_session] at ended
      rw [← ended] at grown
      exact absurd asked (not_asked grown)
  | ok template =>
      rw [renderString_session compiled] at ended ⊢
      have resumes : (engine.retrial loader (some later) after).Resumes
          (Resolver.template (engine.source loader) engine.options template)
          (Resolver.template (engine.source (some later)) engine.options template) :=
        Resumption.template_resumes _ (engine.source_counted loader)
          (engine.source_counted (some later)) engine.options template
      exact (resolving_retries resumes ended grown asked uncached).2

/-- A call that could not load a name asks for it first when it is made again, whatever the loader
is then. -/
theorem perform_retries (engine : Engine) (loader : Option Loader) (later : Loader) (call : Call)
    {session after : Session} (ended : (engine.perform loader call session).2 = after)
    {names : List String} (grown : after.asked = session.asked ++ names) (asked : name ∈ names)
    (uncached : after.compiled.get? name = none) :
    ∃ rest, (engine.perform (some later) call after).2.asked = after.asked ++ name :: rest := by
  cases call with
  | compile source target =>
      rw [perform, answering, ofFault_session] at ended
      rw [← ended] at grown
      exact absurd asked (not_asked grown)
  | getTemplate target =>
      exact engine.getTemplate_retries loader later target ended grown asked uncached
  | resolve target => exact engine.resolve_retries loader later target ended grown asked uncached
  | render target origin =>
      rw [perform, answering, render_session] at ended ⊢
      exact engine.resolve_retries loader later target ended grown asked uncached
  | renderString source target origin =>
      exact engine.renderString_retries loader later source target origin ended grown asked uncached
  | clearCache =>
      rw [← ended] at grown
      exact absurd asked (not_asked grown)
  | withFilter filter candidate =>
      rw [← ended] at grown
      exact absurd asked (not_asked grown)

end Engine

end Templating
