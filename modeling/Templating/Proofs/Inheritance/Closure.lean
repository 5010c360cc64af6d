import Mathlib
import Templating.Proofs.Inheritance.Worklist
import Templating.Proofs.Rendering.Scopes

/-!
The inclusions of a resolved template are exactly those that can be reached from it, each with the
body that its own chain gives, so that rendering finds every template that it includes.
-/

namespace Templating.Resolver

open Node

variable {loader : Option Loader} {delimiters : Delimiters} {options : Options}

/-- Every template at hand has the name that it is stored under. -/
def State.OwnNamed (state : State Unit) : Prop :=
  ∀ name template, state.table.get? name = some template → template.name = name

theorem State.OwnNamed.find {state : State Unit} (own : state.OwnNamed) {name : String}
    {template : Template}
    (found : state.find (Loader.source loader delimiters options) name = some template) :
    template.name = name := by
  rw [State.find] at found
  cases known : state.table.get? name with
  | some other =>
      rw [known] at found
      cases found
      exact own name template known
  | none =>
      rw [known, Option.none_or] at found
      cases fetched : ((Loader.source loader delimiters options).fetch name ()).1 with
      | error =>
          rw [fetched] at found
          cases found
      | ok other =>
          rw [fetched] at found
          cases found
          exact Loader.source_names fetched

/-- A template that was loaded under its own name is at hand already. -/
theorem State.adding_loaded {source : Source Unit} {name : String} {template : Template}
    {before after : State Unit} (named : template.name = name)
    (run : load source name before = (.ok (some template), after)) :
    after.adding template = after := by
  apply State.adding_of_found
  rw [named]
  exact load_found run

section

variable {find : String → Option Template} {root body : List Node} {waiting : List Inclusion}
  {includes : Dictionary (List Node)}

/-- When everything that waited is included, so is everything that the body includes. -/
theorem Covers.ended (covers : Covers waiting includes body)
    (ended : ∀ next ∈ waiting, includes.has next.name = true) :
    ∀ next ∈ bodyInclusions body, includes.has next.name = true := by
  intro next member
  obtain has | waits := covers next member
  · exact has
  · obtain ⟨other, among, same⟩ := List.mem_map.mp waits
    exact same ▸ ended other among

theorem Gathered.has_of_reached (gathered : Gathered options find root waiting includes)
    (ended : ∀ next ∈ waiting, includes.has next.name = true) {name : String}
    (reached : Reached options find root name) : includes.has name = true := by
  induction reached with
  | direct member => exact gathered.root.ended ended _ member
  | through _ yields member ih =>
      rw [Dictionary.has_eq_isSome, Option.isSome_iff_exists] at ih
      obtain ⟨content, found⟩ := ih
      cases yields.unique (gathered.yields _ content found)
      exact (gathered.inner _ _ found).ended ended _ member

/-- The names that are closed under inclusion: of what the body includes and of what the included
bodies of these names include. -/
def Closed (root : List Node) (includes : Dictionary (List Node)) (names : Set String) : Prop :=
  (∀ name, Includes root name → name ∈ names) ∧
    ∀ member ∈ names, ∀ body, includes.get? member = some body →
      ∀ name, Includes body name → name ∈ names

theorem Gathered.isLeast (gathered : Gathered options find root waiting includes)
    (ended : ∀ next ∈ waiting, includes.has next.name = true) :
    IsLeast {names | Closed root includes names} {name | includes.has name = true} := by
  refine ⟨⟨?_, ?_⟩, ?_⟩
  · intro name included
    obtain ⟨next, member, rfl⟩ := included.mem
    exact gathered.root.ended ended next member
  · intro member _ content found name included
    obtain ⟨next, among, rfl⟩ := included.mem
    exact (gathered.inner member content found).ended ended next among
  · intro names closed name has
    have reached := gathered.reached name has
    clear has
    induction reached with
    | direct member => exact closed.1 _ (includes_of_mem member)
    | through reached yields member ih =>
        have has := gathered.has_of_reached ended reached
        rw [Dictionary.has_eq_isSome, Option.isSome_iff_exists] at has
        obtain ⟨content, found⟩ := has
        cases yields.unique (gathered.yields _ content found)
        exact closed.2 _ ih _ found _ (includes_of_mem member)

/-- Each included template can be resolved by itself, to the body that is included. -/
theorem Gathered.named_succeeds (gathered : Gathered options find root waiting includes)
    (ended : ∀ next ∈ waiting, includes.has next.name = true) {before : State Unit}
    (own : before.OwnNamed)
    (stored : before.find (Loader.source loader delimiters options) = find) {name : String}
    (found : includes.get? name = some body) :
    ∃ resolved after, named (Loader.source loader delimiters options) options name before =
      (.ok resolved, after) ∧ resolved.body = body := by
  have yields := gathered.yields name body found
  obtain ⟨template, above, between, middle, loaded, followed, rfl⟩ := yields_iff.mpr (stored ▸ yields)
  have ownName := own.find (load_iff_find.mp ⟨between, loaded⟩)
  have resolves : ∀ other, Reached options find root other →
      ∃ content, Yields options find other content ∧
        ∀ next ∈ bodyInclusions content, Reached options find root next.name := by
    intro other reached
    have has := gathered.has_of_reached ended reached
    rw [Dictionary.has_eq_isSome, Option.isSome_iff_exists] at has
    obtain ⟨content, known⟩ := has
    have yieldsOther := gathered.yields other content known
    exact ⟨content, yieldsOther, fun next member => .through reached yieldsOther member⟩
  have reached : Reached options find root name := by
    refine gathered.reached name ?_
    rw [Dictionary.has_eq_isSome, found]
    rfl
  obtain ⟨result, after, gathers⟩ := gather_succeeds resolves
    (middle.table.length + (Loader.source loader delimiters options).known middle.supply + 1)
    (fun next member => .through reached yields member) above.sources [] middle
    (by rw [chain_find followed, load_find loaded, stored])
  refine ⟨_, after, named_ok.mpr ⟨template, between, loaded,
    template_ok.mpr ⟨above, middle, result, ?_, gathers, rfl⟩⟩, rfl⟩
  rw [State.adding_loaded ownName loaded]
  exact followed

end

/-- Rendering finds every template that it includes when the includes are closed. -/
theorem renderIn_finds {resolved : Resolved}
    (closed : Closed resolved.body resolved.includes {name | resolved.includes.has name = true})
    (settings : Settings) (missing : String) (scope : Scope) :
    (resolved.renderIn settings scope).1 ≠ .error (.unresolved missing) := by
  have locals (failure : Failure) (isLocal : failure.IsLocal) : failure ≠ .unresolved missing := by
    rintro rfl
    exact isLocal
  have inserts : Rendering.InsertsConfined (· ≠ .unresolved missing)
      (Rendering.insertion settings resolved.includes settings.options.depth)
      (bodyInclusions resolved.body) := by
    intro next member bindings position
    refine Rendering.insertion_confined locals (fun name => resolved.includes.has name = true) ?_ ?_
      _ (closed.1 _ (includes_of_mem member)) bindings position
    · intro name has absent
      rw [Dictionary.has_eq_isSome, absent] at has
      cases has
    · intro name content has found inclusion among
      exact closed.2 name has content found _ (includes_of_mem among)
  exact Resolved.renderIn_fails (fun _ => Failure.noConfusion)
    (Rendering.body_confined locals resolved.body inserts) scope

/-- The templates that a resolved template has for inclusion are the least set that is closed under
inclusion, each with the body that it resolves to by itself. The loop that collects them ends, however
many turns it is given beyond the number of templates, and no rendering lacks one of them. -/
theorem named_includes {name : String} {before after : State Unit} {resolved : Resolved}
    (own : before.OwnNamed)
    (run : named (Loader.source loader delimiters options) options name before =
      (.ok resolved, after)) :
    IsLeast {names | Closed resolved.body resolved.includes names}
        {other | resolved.includes.has other = true} ∧
      (∀ other body, resolved.includes.get? other = some body →
        ∃ itself last, named (Loader.source loader delimiters options) options other before =
          (.ok itself, last) ∧ itself.body = body) ∧
      (∃ main above between middle,
        load (Loader.source loader delimiters options) name before = (.ok (some main), between) ∧
        chain (Loader.source loader delimiters options) options [] options.depth main between =
          (.ok above, middle) ∧ above.body = resolved.body ∧
        ∀ turns, middle.table.length +
            (Loader.source loader delimiters options).known middle.supply < turns →
          gather (Loader.source loader delimiters options) options turns
            (bodyInclusions resolved.body) above.sources [] middle =
              (.ok (resolved.sources, resolved.includes), after)) ∧
      (∀ settings values missing,
        resolved.render settings values ≠ .error (.unresolved missing)) ∧
      ∀ settings scope missing,
        (resolved.renderUnder settings scope).1 ≠ .error (.unresolved missing) := by
  obtain ⟨main, between, loaded, run⟩ := named_ok.mp run
  obtain ⟨above, middle, result, followed, gathers, rfl⟩ := template_ok.mp run
  rw [State.adding_loaded (own.find (load_iff_find.mp ⟨between, loaded⟩)) loaded] at followed
  have stored : middle.find (Loader.source loader delimiters options) =
      before.find (Loader.source loader delimiters options) := by
    rw [chain_find followed, load_find loaded]
  have counts := loader_counts loader delimiters options
  have start : Gathered options (middle.find (Loader.source loader delimiters options)) above.body
      (bodyInclusions above.body) [] := .start above.body
  obtain ⟨passed, gathered, ended⟩ := gather_gathered (counts.lists_find middle) start
    (counts.names_lt middle) rfl gathers
  have least := gathered.isLeast ended
  refine ⟨least, ?_, ⟨main, above, between, middle, loaded, followed, rfl, ?_⟩, ?_, ?_⟩
  · intro other body found
    exact gathered.named_succeeds ended own stored.symm found
  · intro turns more
    rw [← gathers]
    exact gather_enough counts.counted middle above.body above.sources more
  · intro settings values missing
    refine renderIn_finds ?_ settings missing _
    exact least.1
  · intro settings scope missing
    rw [Resolved.renderUnder_eq]
    refine renderIn_finds ?_ settings missing _
    exact least.1

/-- A page that includes rows, which include themselves and cells. -/
theorem named_includes_rows : ∃ (texts : Dictionary String) (resolved : Resolved)
    (after : State Unit),
    named (Loader.source (some ⟨texts⟩) {} {}) {} "page" { table := [], supply := () } =
        (.ok resolved, after) ∧ resolved.includes.names = ["row", "cell"] ∧
      IsLeast {names | Closed resolved.body resolved.includes names}
        {other | resolved.includes.has other = true} := by
  have resolves : ∃ resolved after, named (Loader.source (some ⟨[
      ("page", "\x7b% if a %\x7d\x7b% else %\x7d\x7b% include 'row' %\x7d\x7b% endif %\x7d"),
      ("row", "\x7b% include 'row' %\x7d\x7b% include 'cell' %\x7d"),
      ("cell", "cell")]⟩) {} {}) {} "page" { table := [], supply := () } = (.ok resolved, after) ∧
      resolved.includes.names = ["row", "cell"] :=
    ⟨_, _, by cbv, by cbv⟩
  obtain ⟨resolved, after, run, names⟩ := resolves
  have own : State.OwnNamed { table := [], supply := () } := fun _ _ known => by cases known
  exact ⟨_, resolved, after, run, names, (named_includes own run).1⟩

end Templating.Resolver
