import Templating.Loader
import Templating.Proofs.Dictionary
import Templating.Proofs.Outcome

/-!
What the source of a loader gives: the compiled text of a name, as a template of this name.
-/

namespace Templating

open Outcome

/-- A template keeps the name and the text that it is read from. -/
theorem Template.ofTokens_keeps {limit : Int} {name source : String} {tokens : List Token}
    {template : Template} (read : ofTokens limit name source tokens = .ok template) :
    template.name = name ∧ template.source = source := by
  unfold ofTokens at read
  split at read
  · cases read
  · split at read
    · cases read
    · cases read
      exact ⟨rfl, rfl⟩

theorem Template.compile_keeps {delimiters : Delimiters} {limit : Int} {name source : String}
    {template : Template} (compiled : compile delimiters limit name source = .ok template) :
    template.name = name ∧ template.source = source := by
  obtain ⟨tokens, _, read⟩ := bind_eq_ok.mp compiled
  exact ofTokens_keeps read

/-- Compiled from a source text, with any delimiters and any limit of nesting. -/
def Template.IsCompiled (template : Template) : Prop :=
  ∃ delimiters limit name source, Template.compile delimiters limit name source = .ok template

/-- The text is the one that the template keeps. -/
theorem Template.IsCompiled.own {template : Template} (compiled : template.IsCompiled) :
    ∃ delimiters limit, compile delimiters limit template.name template.source = .ok template := by
  obtain ⟨delimiters, limit, name, source, same⟩ := compiled
  obtain ⟨rfl, rfl⟩ := compile_keeps same
  exact ⟨delimiters, limit, same⟩

namespace Loader

variable {loader : Option Loader} {delimiters : Delimiters} {options : Options} {name : String}

theorem source_fetch (loader : Option Loader) (delimiters : Delimiters) (options : Options)
    (name : String) :
    ((source loader delimiters options).fetch name ()).1 =
      match loader.bind (·.load? name) with
      | none => .error .notFound
      | some text => (Template.compile delimiters options.depth name text).mapError .fault := by
  unfold source
  dsimp only
  cases loader.bind (·.load? name) with
  | none => rfl
  | some text =>
      dsimp only
      cases Template.compile delimiters options.depth name text <;> rfl

theorem source_fetch_ok {template : Template} :
    ((source loader delimiters options).fetch name ()).1 = .ok template ↔
      ∃ text, loader.bind (·.load? name) = some text ∧
        Template.compile delimiters options.depth name text = .ok template := by
  rw [source_fetch]
  cases loader.bind (·.load? name) with
  | none => simp
  | some text => simp [Outcome.mapError_eq_ok]

theorem source_names {template : Template}
    (fetched : ((source loader delimiters options).fetch name ()).1 = .ok template) :
    template.name = name := by
  obtain ⟨_, _, compiled⟩ := source_fetch_ok.mp fetched
  exact (Template.compile_keeps compiled).1

/-- The names of a loader, none if there is no loader. -/
def known (loader : Option Loader) : List String :=
  (loader.map (·.templates.names)).getD []

theorem mem_known {template : Template}
    (fetched : ((source loader delimiters options).fetch name ()).1 = .ok template) :
    name ∈ known loader := by
  obtain ⟨text, loaded, _⟩ := source_fetch_ok.mp fetched
  cases loader with
  | none => cases loaded
  | some loader =>
      have present : loader.templates.has name = true := by
        rw [Dictionary.has_eq_isSome]
        exact Option.isSome_iff_exists.mpr ⟨text, loaded⟩
      exact (Dictionary.has_iff_mem_names _ name).mp present

theorem length_known (loader : Option Loader) (delimiters : Delimiters) (options : Options) :
    (known loader).length = (source loader delimiters options).known () := by
  cases loader with
  | none => rfl
  | some loader => exact List.length_map _

end Loader

end Templating
