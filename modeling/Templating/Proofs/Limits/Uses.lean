import Mathlib
import Templating.Loader
import Templating.Proofs.Engine.Renderings
import Templating.Proofs.Engine.Transparency
import Templating.Proofs.Inheritance.Curtails
import Templating.Proofs.Limits.Parsing

/-!
Engines under limits: a use of an engine ends as it does under a greater limit, with the same text
or the same failure, unless the limit is exceeded. The limits on nesting and on the length of chains
end the resolving of a template early or have no part in it, and so does the limit on inclusions with
a rendering; the values of expressions do not depend on any limit.
-/

namespace Templating

/-- These options differ from the others at most in that they allow less depth. -/
structure Options.Tightens (tight loose : Options) : Prop where
  escape : tight.escape = loose.escape
  undefined : tight.undefined = loose.undefined
  override : tight.override = loose.override
  depth : tight.depth ≤ loose.depth

/-- The causes that a limit on depth brings about. -/
inductive Cause.IsLimit (limit : Nat) : Cause → Prop where
  | nesting : IsLimit limit (.grammar (.tooDeep limit))
  | inclusion : IsLimit limit (.rendering (.tooDeep limit))
  | chain (names : List String) : IsLimit limit (.inheritance (.tooLong limit names))

theorem Cause.IsLimit.kind {limit : Nat} {cause : Cause} (exceeded : cause.IsLimit limit) :
    cause.kind = "MaxDepthExceeded" ∨ cause.kind = "CyclicExtends" := by
  cases exceeded with
  | nesting | inclusion => exact .inl rfl
  | chain => exact .inr rfl

/-- The fault says that the limit is exceeded. -/
def Fault.IsLimit (limit : Nat) (fault : Fault) : Prop :=
  fault.cause.IsLimit limit

theorem Template.IsTooDeep.isLimit {limit : Nat} {fault : Fault}
    (deep : Template.IsTooDeep limit fault) : Fault.IsLimit limit fault := by
  rw [Fault.IsLimit, deep]
  exact .nesting

namespace Resolver

theorem lengthFault_isLimit (limit : Nat) (visited : List String) (template : Template) :
    Fault.IsLimit limit (lengthFault limit visited template) :=
  .chain _

theorem options_curtail {σ : Type} {tight loose : Options} (tightens : tight.Tightens loose) :
    OptionsCurtail σ (Fault.IsLimit tight.depth) tight loose where
  override child parentName parentBody := by
    rw [tightens.override]
    exact .refl _
  depth := .inr ⟨tightens.depth, lengthFault_isLimit tight.depth⟩

/-- A loader's texts compile under tight options as under loose ones, unless they nest too deep. -/
theorem source_curtails (loader : Option Loader) (delimiters : Delimiters) {tight loose : Options}
    (tightens : tight.Tightens loose) :
    SourceCurtails (Fault.IsLimit tight.depth) (Loader.source loader delimiters tight)
      (Loader.source loader delimiters loose) where
  fetch name supply := by
    have within : (tight.depth : Int) ≤ loose.depth := Int.ofNat_le.mpr tightens.depth
    simp only [Loader.source]
    cases loader.bind (·.load? name) with
    | none => exact .inl rfl
    | some text =>
        dsimp only
        rcases Template.compile_curtails delimiters within name text with
          ⟨fault, fails, deep⟩ | same
        · rw [fails]
          exact .inr ⟨fault, (), rfl, deep.isLimit⟩
        · rw [same]
          exact .inl rfl
  known _ := rfl

end Resolver

namespace Rendering

/-- The failure says that the limit is exceeded. -/
def IsLimit (limit : Nat) (failure : Failure) : Prop :=
  ∃ fault, failure = .fault fault ∧ Fault.IsLimit limit fault

end Rendering

open Rendering (IsLimit)

/-- These settings differ from the others at most in that they allow less depth. -/
structure Settings.Tightens (tight loose : Settings) : Prop where
  filters : tight.filters = loose.filters
  options : tight.options.Tightens loose.options

/-- Nothing but inclusions that nest too deep is refused in addition. -/
theorem Settings.Tightens.paired {tight loose : Settings} (tightens : tight.Tightens loose) :
    tight.Paired (IsLimit tight.options.depth) loose where
  filters := tightens.filters
  escape := tightens.options.escape
  missing name path position := by
    rw [tightens.options.undefined]
    exact .refl _
  depth := .inr ⟨tightens.options.depth, fun _ => ⟨_, rfl, .inclusion⟩⟩

/-- Quoting the source line leaves the cause as it is. -/
theorem Resolved.quoteSource_isLimit (resolved : Resolved) {limit : Nat} {failure : Failure}
    (exceeded : IsLimit limit failure) : IsLimit limit (resolved.quoteSource failure) := by
  obtain ⟨fault, rfl, exceeded⟩ := exceeded
  obtain ⟨snippet, quoted⟩ := resolved.quoteSource_fault fault
  exact ⟨_, quoted, exceeded⟩

open Outcome (Curtails)

namespace Engine

/-- These engines differ at most in that the first one allows less depth. -/
structure Tightens (tight loose : Engine) : Prop where
  filters : tight.filters = loose.filters
  delimiters : tight.delimiters = loose.delimiters
  options : tight.options.Tightens loose.options

variable {tight loose : Engine}

theorem renderResolved_curtails (tightens : tight.Tightens loose) (resolved : Resolved)
    (origin : Origin) :
    Curtails (IsLimit tight.options.depth) (tight.renderResolved resolved origin {}).1
      (loose.renderResolved resolved origin {}).1 := by
  have settings : tight.settings.Tightens loose.settings := ⟨tightens.filters, tightens.options⟩
  exact renderResolved_paired settings.paired (fun _ => resolved.quoteSource_isLimit)
    (fun _ _ => rfl) {}

section

variable {engine : Engine} {loader : Option Loader} {session : Session}
  (coherent : session.Coherent loader engine.delimiters engine.options) (origin : Origin)

include coherent

/-- A template by name is resolved from the loader's texts and then rendered. -/
theorem render_outcome (name : String) :
    (engine.render loader name origin session).1 =
      ((Resolver.named (Loader.source loader engine.delimiters engine.options) engine.options name
          { table := [], supply := () }).1.mapError .fault >>= fun resolved =>
        (engine.renderResolved resolved origin {}).1) := by
  obtain ⟨same, _⟩ := render_gives (engine.resolve_gives loader name) origin session _ _ coherent rfl
  rw [← same, Except.map_id]
  rfl

/-- A text is compiled, resolved over the loader's texts and then rendered. -/
theorem renderString_outcome (source name : String) :
    (engine.renderString loader source name origin session).1 =
      ((engine.compile source name).mapError .fault >>= fun template =>
        (Resolver.template (Loader.source loader engine.delimiters engine.options) engine.options
            template { table := [], supply := () }).1.mapError .fault >>= fun resolved =>
          (engine.renderResolved resolved origin {}).1) := by
  rw [renderString]
  cases engine.compile source name with
  | error fault => rfl
  | ok template =>
      obtain ⟨same, _⟩ := render_gives (resolving_gives (Resolver.template_simulates
        (engine.source_mirrors loader) template)) origin session _ _ coherent rfl
      rw [Except.map_id] at same
      exact same

end

variable {loader : Option Loader} {session further : Session}

theorem render_curtails (tightens : tight.Tightens loose)
    (coherent : session.Coherent loader tight.delimiters tight.options)
    (furtherCoherent : further.Coherent loader loose.delimiters loose.options) (name : String)
    (origin : Origin) :
    Curtails (IsLimit tight.options.depth) (tight.render loader name origin session).1
      (loose.render loader name origin further).1 := by
  rw [render_outcome coherent, render_outcome furtherCoherent, ← tightens.delimiters]
  refine .bind ?_ fun resolved => renderResolved_curtails tightens resolved origin
  have named := Resolver.named_curtails
    (Resolver.source_curtails loader tight.delimiters tightens.options)
    (Resolver.options_curtail tightens.options) name
  exact (named.outcome _).mapError fun fault exceeded => ⟨fault, rfl, exceeded⟩

theorem renderString_curtails (tightens : tight.Tightens loose)
    (coherent : session.Coherent loader tight.delimiters tight.options)
    (furtherCoherent : further.Coherent loader loose.delimiters loose.options)
    (source name : String) (origin : Origin) :
    Curtails (IsLimit tight.options.depth) (tight.renderString loader source name origin session).1
      (loose.renderString loader source name origin further).1 := by
  have within : (tight.options.depth : Int) ≤ loose.options.depth :=
    Int.ofNat_le.mpr tightens.options.depth
  rw [renderString_outcome coherent, renderString_outcome furtherCoherent, ← tightens.delimiters]
  refine .bind ?_ fun template => .bind ?_ fun resolved =>
    renderResolved_curtails tightens resolved origin
  · rw [compile, compile, ← tightens.delimiters]
    exact (Template.compile_curtails tight.delimiters within name source).mapError
      fun fault deep => ⟨fault, rfl, deep.isLimit⟩
  · have resolves := Resolver.template_curtails
      (Resolver.source_curtails loader tight.delimiters tightens.options)
      (Resolver.options_curtail tightens.options) template
    exact (resolves.outcome _).mapError fun fault exceeded => ⟨fault, rfl, exceeded⟩

/-- A limit that is exceeded is reported as too deep or as an endless chain of parents. -/
theorem limit_kind {α : Type} {limit : Nat} {first second : Except Failure α}
    (curtails : Curtails (IsLimit limit) first second) :
    (∃ fault, first = .error (.fault fault) ∧ fault.cause.IsLimit limit ∧
      (fault.cause.kind = "MaxDepthExceeded" ∨ fault.cause.kind = "CyclicExtends")) ∨
      first = second := by
  rcases curtails with ⟨_, fails, fault, rfl, exceeded⟩ | same
  · exact .inl ⟨fault, fails, exceeded, exceeded.kind⟩
  · exact .inr same

/-- Limits on depth only cut off. Whatever has been done before with two engines that differ at
most in the depth they allow, a text or a template by name is rendered by the stricter one as by the
other, or not at all because its limit is exceeded. -/
theorem renders_within_limit (tightens : tight.Tightens loose)
    (coherent : session.Coherent loader tight.delimiters tight.options)
    (furtherCoherent : further.Coherent loader loose.delimiters loose.options) (origin : Origin) :
    (∀ source name,
      (∃ fault, (tight.renderString loader source name origin session).1 = .error (.fault fault) ∧
        fault.cause.IsLimit tight.options.depth ∧
        (fault.cause.kind = "MaxDepthExceeded" ∨ fault.cause.kind = "CyclicExtends")) ∨
      (tight.renderString loader source name origin session).1 =
        (loose.renderString loader source name origin further).1) ∧
    ∀ name,
      (∃ fault, (tight.render loader name origin session).1 = .error (.fault fault) ∧
        fault.cause.IsLimit tight.options.depth ∧
        (fault.cause.kind = "MaxDepthExceeded" ∨ fault.cause.kind = "CyclicExtends")) ∨
      (tight.render loader name origin session).1 = (loose.render loader name origin further).1 :=
  ⟨fun source name =>
      limit_kind (renderString_curtails tightens coherent furtherCoherent source name origin),
    fun name => limit_kind (render_curtails tightens coherent furtherCoherent name origin)⟩

/-- Two groups in a value need three levels. -/
theorem renders_within_limit_groups : ∃ tight loose : Engine, tight.Tightens loose ∧
    (loose.renderString none "\x7b\x7b (('a')) \x7d\x7d" "page" (.frame []) {}).1 = .ok "a" ∧
    ∃ fault, (tight.renderString none "\x7b\x7b (('a')) \x7d\x7d" "page" (.frame []) {}).1 =
        .error (.fault fault) ∧ fault.cause.kind = "MaxDepthExceeded" := by
  have tightens : Tightens { options := { depth := 2 } } { options := { depth := 3 } } :=
    ⟨rfl, rfl, rfl, rfl, rfl, by decide⟩
  have renders : (renderString { options := { depth := 3 } } none "\x7b\x7b (('a')) \x7d\x7d" "page"
      (.frame []) {}).1 = .ok "a" := by
    cbv
  have fails : ∃ fault, (renderString { options := { depth := 2 } } none
      "\x7b\x7b (('a')) \x7d\x7d" "page" (.frame []) {}).1 = .error (.fault fault) ∧
        fault.cause.kind ≠ "CyclicExtends" :=
    ⟨_, by cbv, by decide⟩
  have fresh (engine : Engine) : Session.Coherent none engine.delimiters engine.options {} :=
    .empty rfl rfl
  refine ⟨_, _, tightens, renders, ?_⟩
  rcases (renders_within_limit tightens (fresh _) (fresh _) (.frame [])).1
      "\x7b\x7b (('a')) \x7d\x7d" "page" with ⟨fault, cutOff, _, kind⟩ | same
  · obtain ⟨other, again, acyclic⟩ := fails
    obtain rfl : fault = other := Failure.fault.inj (Except.error.inj (cutOff.symm.trans again))
    exact ⟨fault, cutOff, kind.resolve_right acyclic⟩
  · obtain ⟨other, again, _⟩ := fails
    rw [same, renders] at again
    cases again

end Engine

end Templating
