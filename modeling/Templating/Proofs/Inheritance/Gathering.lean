import Mathlib.Data.List.TakeWhile
import Templating.Proofs.Inheritance.Chain

/-!
Runs of the resolver over the inclusions that wait, and over a whole template: what a run that
succeeds did.
-/

namespace Templating.Resolver

open Node

variable {σ : Type} {source : Source σ} {options : Options}

/-- The inclusions that wait, from the first on whose template is not included yet. -/
def pending (includes : Dictionary (List Node)) (waiting : List Inclusion) : List Inclusion :=
  waiting.dropWhile fun next => includes.has next.name

theorem has_of_pending_nil {includes : Dictionary (List Node)} {waiting : List Inclusion}
    (none : pending includes waiting = []) : ∀ next ∈ waiting, includes.has next.name = true :=
  List.dropWhile_eq_nil_iff.mp none

theorem pending_cons {includes : Dictionary (List Node)} {waiting rest : List Inclusion}
    {next : Inclusion} (first : pending includes waiting = next :: rest) :
    includes.has next.name = false ∧ ∃ passed, waiting = passed ++ next :: rest ∧
      ∀ other ∈ passed, includes.has other.name = true := by
  have split := List.takeWhile_append_dropWhile
    (p := fun next : Inclusion => includes.has next.name) (l := waiting)
  rw [← pending, first] at split
  refine ⟨?_, _, split.symm, fun other member => List.mem_takeWhile_imp
    (p := fun next : Inclusion => includes.has next.name) member⟩
  have head := List.head?_dropWhile_not (fun next : Inclusion => includes.has next.name) waiting
  rw [← pending, first] at head
  simpa using head

/-- One turn ends the loop or includes one more template. -/
theorem gather_ok {turns : Nat} {waiting : List Inclusion} {sources : Dictionary String}
    {includes : Dictionary (List Node)} {before after : State σ}
    {gathered : Dictionary String × Dictionary (List Node)} :
    gather source options (turns + 1) waiting sources includes before = (.ok gathered, after) ↔
      (pending includes waiting = [] ∧ gathered = (sources, includes) ∧ after = before) ∨
        ∃ next rest included above between middle,
          pending includes waiting = next :: rest ∧
          load source next.name before = (.ok (some included), between) ∧
          chain source options [] options.depth included between = (.ok above, middle) ∧
          gather source options turns (rest ++ bodyInclusions above.body)
            (sources.update above.sources) (includes.set next.name above.body) middle =
              (.ok gathered, after) := by
  rw [gather, pending]
  cases waiting.dropWhile fun next => includes.has next.name with
  | nil =>
      constructor
      · intro run
        cases run
        exact .inl ⟨rfl, rfl, rfl⟩
      · rintro (⟨_, rfl, rfl⟩ | ⟨_, _, _, _, _, _, impossible, _⟩)
        · rfl
        · cases impossible
  | cons next rest =>
      dsimp only
      rw [Run.get_bind]
      simp only [Run.bind_eq_ok, loadReferenced_ok]
      constructor
      · rintro ⟨included, between, loaded, above, middle, followed, rest⟩
        exact .inr ⟨_, _, included, above, between, middle, rfl, loaded, followed, rest⟩
      · rintro (⟨impossible, _⟩ | ⟨_, _, included, above, between, middle, same, loaded, followed,
          rest⟩)
        · cases impossible
        · cases same
          exact ⟨included, between, loaded, above, middle, followed, rest⟩

/-- The state in which a template that is compiled already is resolved. -/
def State.adding (state : State σ) (template : Template) : State σ :=
  if state.table.has template.name then state
  else { state with table := state.table.set template.name template }

theorem State.extends_adding (state : State σ) (template : Template) :
    state.Extends (state.adding template) := by
  rw [adding]
  split
  · exact .refl state
  case isFalse absent =>
    rw [Dictionary.has_eq_isSome, Bool.not_eq_true, Option.isSome_eq_false_iff,
      Option.isNone_iff_eq_none] at absent
    exact .set absent rfl

theorem State.adding_of_found {state : State σ} {main : Template}
    (here : state.table.get? main.name = some main) : state.adding main = state := by
  rw [adding, Dictionary.has_eq_isSome, here]
  rfl

theorem template_ok {main : Template} {before after : State σ} {resolved : Resolved} :
    template source options main before = (.ok resolved, after) ↔
      ∃ above between gathered,
        chain source options [] options.depth main (before.adding main) = (.ok above, between) ∧
        gather source options (between.table.length + source.known between.supply + 1)
          (bodyInclusions above.body) above.sources [] between = (.ok gathered, after) ∧
        resolved = ⟨main.name, above.body, gathered.1, gathered.2, above.names⟩ := by
  rw [template, Run.bind_eq_ok]
  constructor
  · rintro ⟨_, start, added, run⟩
    cases added
    obtain ⟨above, between, followed, run⟩ := Run.bind_eq_ok.mp run
    rw [Run.get_bind] at run
    obtain ⟨gathered, last, gathers, done⟩ := Run.bind_eq_ok.mp run
    cases done
    exact ⟨above, between, gathered, followed, gathers, rfl⟩
  · rintro ⟨above, between, gathered, followed, gathers, rfl⟩
    refine ⟨⟨⟩, _, rfl, Run.bind_eq_ok.mpr ⟨above, between, followed, ?_⟩⟩
    rw [Run.get_bind]
    exact Run.bind_eq_ok.mpr ⟨gathered, after, gathers, rfl⟩

theorem named_ok {name : String} {before after : State σ} {resolved : Resolved} :
    named source options name before = (.ok resolved, after) ↔
      ∃ found between, load source name before = (.ok (some found), between) ∧
        template source options found between = (.ok resolved, after) := by
  rw [named, Run.bind_eq_ok]
  constructor
  · rintro ⟨found, between, loaded, run⟩
    cases found with
    | none => cases run
    | some found => exact ⟨found, between, loaded, run⟩
  · rintro ⟨found, between, loaded, run⟩
    exact ⟨some found, between, loaded, run⟩

end Templating.Resolver
