import Mathlib
import Templating.Proofs.Inheritance.Levels
import Templating.Proofs.Inheritance.Provenance
import Templating.Proofs.Inheritance.Stack

/-!
Resolvers that are used again. Whatever has been asked of a resolver before, also in vain, it has no
chain open and has at hand only what its loader has, so that it answers as a new one does.
-/

namespace Templating

namespace Node

theorem position_mem_bodyPlaces {body : List Node} {found : Inclusion}
    (member : found ∈ bodyInclusions body) : found.position ∈ bodyPlaces body := by
  obtain ⟨bindings, among⟩ := exists_mem_bodyShells member
  exact List.mem_flatMap.mpr ⟨_, among, List.mem_cons_self⟩

end Node

namespace Resolver

open Node

variable {σ α β : Type} {source : Source Unit} {options : Options}

/-- Whatever is at hand is what the source has. -/
def State.Backed (source : Source Unit) (state : State Unit) : Prop :=
  ∀ name template, state.table.get? name = some template →
    (source.fetch name ()).1 = .ok template

/-- A state of a new resolver and that of a used one: what the new one has at hand the used one has
too, all that this has is backed, and it had warnings before. -/
structure Ahead (source : Source Unit) (earlier : List OverrideWarning) (fresh used : State Unit) :
    Prop where
  kept : fresh.Extends used
  backed : used.Backed source
  warnings : used.warnings = earlier ++ fresh.warnings

theorem Ahead.freshBacked {earlier : List OverrideWarning} {fresh used : State Unit}
    (ahead : Ahead source earlier fresh used) : fresh.Backed source :=
  fun name template found => ahead.backed name template (ahead.kept name template found)

/-- From these states the runs end alike, and the used state stays ahead. -/
def Alike (source : Source Unit) (earlier : List OverrideWarning) (fresh used : State Unit)
    (first second : Resolving Unit α) : Prop :=
  ∃ outcome freshAfter usedAfter, first fresh = (outcome, freshAfter) ∧
    second used = (outcome, usedAfter) ∧ Ahead source earlier freshAfter usedAfter

variable {earlier : List OverrideWarning} {fresh used : State Unit}

namespace Alike

theorem pure (ahead : Ahead source earlier fresh used) (value : α) :
    Alike source earlier fresh used (pure value) (pure value) :=
  ⟨_, _, _, rfl, rfl, ahead⟩

theorem throw (ahead : Ahead source earlier fresh used) (fault : Fault) :
    Alike source earlier fresh used (throw fault : Resolving Unit α) (throw fault) :=
  ⟨_, _, _, rfl, rfl, ahead⟩

theorem bind {first second : Resolving Unit α} {next other : α → Resolving Unit β}
    (alike : Alike source earlier fresh used first second)
    (continues : ∀ value freshAfter usedAfter, first fresh = (.ok value, freshAfter) →
      Ahead source earlier freshAfter usedAfter →
      Alike source earlier freshAfter usedAfter (next value) (other value)) :
    Alike source earlier fresh used (first >>= next) (second >>= other) := by
  obtain ⟨outcome, freshAfter, usedAfter, one, another, ahead⟩ := alike
  cases outcome with
  | ok value =>
      obtain ⟨last, freshLast, usedLast, there, here, further⟩ :=
        continues value freshAfter usedAfter one ahead
      exact ⟨last, freshLast, usedLast, (Run.bind_ok one).trans there,
        (Run.bind_ok another).trans here, further⟩
  | error fault =>
      exact ⟨_, freshAfter, usedAfter, Run.bind_error one, Run.bind_error another, ahead⟩

theorem get {next other : State Unit → Resolving Unit β}
    (continues : Alike source earlier fresh used (next fresh) (other used)) :
    Alike source earlier fresh used (get >>= next) (get >>= other) :=
  continues

theorem ite {condition : Prop} [Decidable condition] {first second third fourth : Resolving Unit α}
    (yes : Alike source earlier fresh used first second)
    (no : Alike source earlier fresh used third fourth) :
    Alike source earlier fresh used (if condition then first else third)
      (if condition then second else fourth) := by
  split
  · exact yes
  · exact no

end Alike

/-- A template that only the used state has at hand is fetched in the new one. -/
theorem load_alike (ahead : Ahead source earlier fresh used) (name : String) :
    Alike source earlier fresh used (load source name) (load source name) := by
  cases known : fresh.table.get? name with
  | some template =>
      exact ⟨_, _, _, load_known known, load_known (ahead.kept name template known), ahead⟩
  | none =>
      cases there : used.table.get? name with
      | some template =>
          have fetched : source.fetch name fresh.supply = (.ok template, ()) :=
            Prod.ext (ahead.backed name template there) rfl
          refine ⟨_, _, _, load_fetched known fetched, load_known there, ?_, ahead.backed,
            ahead.warnings⟩
          intro other found same
          rw [Dictionary.get?_set] at same
          split at same
          · rename_i here
            cases same
            exact here ▸ there
          · exact ahead.kept other found same
      | none =>
          cases fetched : source.fetch name fresh.supply with
          | mk outcome supply =>
              have again : source.fetch name used.supply = (outcome, supply) := fetched
              rcases outcome with (_ | fault) | template
              · exact ⟨_, _, _, load_missing known fetched, load_missing there again, ahead.kept,
                  ahead.backed, ahead.warnings⟩
              · exact ⟨_, _, _, load_fault known fetched, load_fault there again, ahead.kept,
                  ahead.backed, ahead.warnings⟩
              · refine ⟨_, _, _, load_fetched known fetched, load_fetched there again, ?_, ?_,
                  ahead.warnings⟩
                · intro other found same
                  rw [Dictionary.get?_set] at same ⊢
                  split
                  · rename_i here
                    rwa [if_pos here] at same
                  · rename_i elsewhere
                    rw [if_neg elsewhere] at same
                    exact ahead.kept other found same
                · intro other found same
                  rw [Dictionary.get?_set] at same
                  split at same
                  · rename_i here
                    cases same
                    rw [here]
                    exact congrArg Prod.fst fetched
                  · exact ahead.backed other found same

theorem loadReferenced_alike (ahead : Ahead source earlier fresh used) (name : String)
    (referrer : Option Template) (position : Option Position) :
    Alike source earlier fresh used (loadReferenced source name referrer position)
      (loadReferenced source name referrer position) := by
  refine (load_alike ahead name).bind fun found freshAfter usedAfter _ further => ?_
  cases found with
  | some template => exact .pure further template
  | none => exact .throw further _

theorem override_alike (ahead : Ahead source earlier fresh used) (mode : OverrideMode)
    (child : Template) (parentName : String) (parentBody : List Node) :
    Alike source earlier fresh used (override mode child parentName parentBody)
      (override mode child parentName parentBody) := by
  by_cases complete : mode = .strict → unknownBlocks child.overrides parentBody = []
  · refine ⟨_, _, _, override_known parentName complete fresh,
      override_known parentName complete used, ahead.kept, ahead.backed, ?_⟩
    dsimp only
    rw [ahead.warnings, List.append_assoc]
  · obtain ⟨rfl, some⟩ := Classical.not_imp.mp complete
    obtain ⟨⟨name, block⟩, rest, unknown⟩ := List.exists_cons_of_ne_nil some
    exact ⟨_, _, _, override_unknown unknown fresh, override_unknown unknown used, ahead⟩

/-- All these names have templates at hand. -/
def State.Holds (state : State Unit) (names : List String) : Prop :=
  ∀ name ∈ names, ∃ template, state.table.get? name = some template

/-- All these inclusions have places, in templates at hand. -/
def State.Places (state : State Unit) (waiting : List Inclusion) : Prop :=
  ∀ next ∈ waiting, ∃ position template, next.position = some position ∧
    state.table.get? position.template = some template

theorem State.Places.mono {before after : State Unit} {waiting : List Inclusion}
    (places : before.Places waiting) (extended : before.Extends after) : after.Places waiting := by
  intro next member
  obtain ⟨position, template, same, found⟩ := places next member
  exact ⟨position, template, same, extended _ _ found⟩

/-- The template that closes a cycle is at hand in both states. -/
theorem cycle_alike (ahead : Ahead source earlier fresh used) {visited : List String}
    (holds : fresh.Holds visited) (template : Template) :
    Alike source earlier fresh used
      (do throw (cycleFault (← get).table visited template) : Resolving Unit Chain)
      (do throw (cycleFault (← get).table visited template)) := by
  have same : cycleFault used.table visited template = cycleFault fresh.table visited template := by
    rw [cycleFault, cycleFault]
    cases last : visited.getLast? with
    | none => rfl
    | some name =>
        obtain ⟨closing, found⟩ := holds name (List.mem_of_getLast? last)
        rw [Option.bind_some, Option.bind_some, found, ahead.kept name closing found]
  refine .get ?_
  rw [same]
  exact .throw ahead _

/-- So is the template that an inclusion stands in. -/
theorem Ahead.referrer_eq (ahead : Ahead source earlier fresh used) {waiting : List Inclusion}
    (places : fresh.Places waiting) {next : Inclusion} (member : next ∈ waiting) :
    used.table.get? ((next.position.map (·.template)).getD "") =
      fresh.table.get? ((next.position.map (·.template)).getD "") := by
  obtain ⟨position, template, same, found⟩ := places next member
  rw [same, Option.map_some, Option.getD_some, found]
  exact ahead.kept _ _ found

section

variable (genuine : Originals fun name => (source.fetch name ()).1.toOption)

include genuine

theorem State.Backed.originals {state : State Unit} (backed : state.Backed source) :
    Originals state.table.get? where
  named found := genuine.named (Outcome.toOption_eq_some.mpr (backed _ _ found))
  compiled found := genuine.compiled (Outcome.toOption_eq_some.mpr (backed _ _ found))

theorem State.Backed.found_self {state : State Unit} (backed : state.Backed source) {name : String}
    {template : Template} (found : state.table.get? name = some template) :
    state.table.get? template.name = some template := by
  rw [(backed.originals genuine).named found, found]

/-- By induction on the templates that may follow: all templates on the way are at hand in both. -/
theorem chain_alike (ahead : Ahead source earlier fresh used) {visited : List String}
    (holds : fresh.Holds visited) {left : Nat} {template : Template}
    (here : fresh.table.get? template.name = some template) :
    Alike source earlier fresh used (chain source options visited left template)
      (chain source options visited left template) := by
  induction left generalizing visited template fresh used with
  | zero =>
      rw [chain.eq_def]
      exact .ite (cycle_alike ahead holds template) (.throw ahead _)
  | succ left ih =>
      rw [chain.eq_def]
      refine .ite (cycle_alike ahead holds template) ?_
      dsimp only
      cases template.parent? with
      | none => exact .pure ahead _
      | some parentName =>
          refine (loadReferenced_alike ahead _ _ _).bind fun parent between _ run further => ?_
          have loaded := loadReferenced_ok.mp run
          have extended := load_extends loaded
          have longer : between.Holds (visited ++ [template.name]) := by
            refine List.forall_mem_append.mpr ⟨fun name member => ?_, ?_⟩
            · obtain ⟨known, found⟩ := holds name member
              exact ⟨known, extended name known found⟩
            · exact List.forall_mem_singleton.mpr ⟨template, extended _ _ here⟩
          have parentHere := further.freshBacked.found_self genuine (load_found loaded)
          refine (ih further longer parentHere).bind fun above _ _ _ last => ?_
          exact (override_alike last _ _ _ _).bind fun _ _ _ _ done => .pure done _

/-- The inclusions in what a chain gives stand in the templates of the chain. -/
theorem chain_places {name : String} {template : Template} {before after : State Unit}
    {above : Chain} (loaded : before.table.get? name = some template)
    (followed : chain source options [] options.depth template before = (.ok above, after))
    (backed : after.Backed source) : after.Places (bodyInclusions above.body) := by
  have yields := chain_yields loaded (.refl before) followed
  intro next member
  obtain ⟨position, contributor, same, found, _⟩ :=
    (backed.originals genuine).yields_places yields _ (position_mem_bodyPlaces member)
  exact ⟨position, contributor, same, found⟩

theorem gather_alike (ahead : Ahead source earlier fresh used) {turns : Nat}
    {waiting : List Inclusion} (places : fresh.Places waiting) (sources : Dictionary String)
    (includes : Dictionary (List Node)) :
    Alike source earlier fresh used (gather source options turns waiting sources includes)
      (gather source options turns waiting sources includes) := by
  induction turns generalizing waiting sources includes fresh used with
  | zero => exact .pure ahead _
  | succ turns ih =>
      rw [gather]
      cases first : waiting.dropWhile fun next => includes.has next.name with
      | nil => exact .pure ahead _
      | cons next rest =>
          obtain ⟨_, passed, split, _⟩ := pending_cons first
          have rest_waits : ∀ other ∈ next :: rest, other ∈ waiting := fun other member =>
            split ▸ List.mem_append_right passed member
          refine .get ?_
          rw [ahead.referrer_eq places (rest_waits next List.mem_cons_self)]
          refine (loadReferenced_alike ahead _ _ _).bind fun included between _ run further => ?_
          have loaded := loadReferenced_ok.mp run
          have here := further.freshBacked.found_self genuine (load_found loaded)
          refine (chain_alike genuine further (List.forall_mem_nil _) here).bind
            fun above after _ followed last => ?_
          have extended := (load_extends loaded).trans (chain_extends followed)
          refine ih last (List.forall_mem_append.mpr ⟨fun other member => ?_, ?_⟩) _ _
          · exact places.mono extended other (rest_waits other (List.mem_cons_of_mem _ member))
          · exact chain_places genuine (load_found loaded) followed last.freshBacked

variable (counted : source.Counted)

include counted

/-- A used resolver has more names at hand and so allows more turns, of which no more are taken. -/
theorem gather_all_alike (ahead : Ahead source earlier fresh used) {body : List Node}
    (places : fresh.Places (bodyInclusions body)) (sources : Dictionary String) :
    Alike source earlier fresh used
      (gather source options (fresh.table.length + source.known fresh.supply + 1)
        (bodyInclusions body) sources [])
      (gather source options (used.table.length + source.known used.supply + 1)
        (bodyInclusions body) sources []) := by
  have alike : Alike source earlier fresh used
      (gather source options (max (fresh.table.length + source.known fresh.supply + 1)
        (used.table.length + source.known used.supply + 1)) (bodyInclusions body) sources [])
      (gather source options (max (fresh.table.length + source.known fresh.supply + 1)
        (used.table.length + source.known used.supply + 1)) (bodyInclusions body) sources []) :=
    gather_alike genuine ahead places sources []
  rwa [Alike, gather_enough counted fresh body sources (Nat.le_max_left _ _),
    gather_enough counted used body sources (Nat.le_max_right _ _)] at alike

theorem template_alike (ahead : Ahead source earlier fresh used) {main : Template}
    (here : fresh.table.get? main.name = some main) :
    Alike source earlier fresh used (template source options main)
      (template source options main) := by
  have added : Alike source earlier fresh used
      (modify fun state => if state.table.has main.name then state
        else { state with table := state.table.set main.name main } : Resolving Unit PUnit)
      (modify fun state => if state.table.has main.name then state
        else { state with table := state.table.set main.name main }) := by
    refine ⟨_, fresh.adding main, used.adding main, rfl, rfl, ?_⟩
    rw [State.adding_of_found here, State.adding_of_found (ahead.kept _ _ here)]
    exact ahead
  refine added.bind fun _ start _ run further => ?_
  cases run
  have started := fresh.extends_adding main _ _ here
  refine (chain_alike genuine further (List.forall_mem_nil _) started).bind
    fun above _ _ followed last => .get ?_
  have places := chain_places genuine started followed last.freshBacked
  exact (gather_all_alike genuine counted last places above.sources).bind
    fun _ _ _ _ done => .pure done _

theorem named_alike (ahead : Ahead source earlier fresh used) (name : String) :
    Alike source earlier fresh used (named source options name) (named source options name) := by
  refine (load_alike ahead name).bind fun found between _ loaded further => ?_
  cases found with
  | none => exact .throw further _
  | some main =>
      exact template_alike genuine counted further
        (further.freshBacked.found_self genuine (load_found loaded))

end

/-- A resolver between two calls: no chain is open, and what is at hand is what the source has. -/
structure Stacked.Idle (source : Source Unit) (stacked : Stacked Unit) : Prop where
  stack : stacked.stack = []
  backed : stacked.state.Backed source

/-- A resolver before its first call. -/
def Stacked.unused : Stacked Unit :=
  { state := { table := [], supply := () } }

theorem Stacked.idle_unused (source : Source Unit) : unused.Idle source :=
  ⟨rfl, fun _ _ found => by cases found⟩

/-- Ahead of an unused resolver is every one that is between two calls. -/
theorem Stacked.Idle.ahead {stacked : Stacked Unit} (idle : stacked.Idle source) :
    Ahead source stacked.state.warnings unused.state stacked.state :=
  ⟨fun _ _ found => (by cases found), idle.backed, (List.append_nil _).symm⟩

namespace Stacking

/-- The resolver behind calls for these names, whatever came of each. -/
def after (source : Source σ) (options : Options) (names : List String) (start : Stacked σ) :
    Stacked σ :=
  names.foldl (fun stacked name => (named source options name stacked).2) start

section

variable (genuine : Originals fun name => (source.fetch name ()).1.toOption)
  (counted : source.Counted) (options : Options)

include genuine counted

/-- A call ends as that of an unused resolver and leaves the resolver between two calls again. -/
theorem named_idle {stacked : Stacked Unit} (idle : stacked.Idle source) (name : String) :
    (named source options name stacked).1 = (named source options name .unused).1 ∧
      (named source options name stacked).2.state.warnings =
        stacked.state.warnings ++ (named source options name .unused).2.state.warnings ∧
      (named source options name stacked).2.Idle source := by
  obtain ⟨state, stack⟩ := stacked
  obtain ⟨rfl, backed⟩ := idle
  have ahead := Stacked.Idle.ahead ⟨rfl, backed⟩
  have alike : Alike source state.warnings Stacked.unused.state state
      (Resolver.named source options name) (Resolver.named source options name) :=
    named_alike genuine counted ahead name
  obtain ⟨outcome, freshAfter, usedAfter, fresh, used, further⟩ := alike
  have freshRun : named source options name .unused = (outcome, ⟨freshAfter, []⟩) :=
    (named_unwinds source options name Stacked.unused.state).trans (by rw [fresh])
  have usedRun : named source options name ⟨state, []⟩ = (outcome, ⟨usedAfter, []⟩) :=
    (named_unwinds source options name state).trans (by rw [used])
  rw [freshRun, usedRun]
  exact ⟨rfl, further.warnings, rfl, further.backed⟩

theorem after_idle (names : List String) : (after source options names .unused).Idle source := by
  induction names using List.reverseRecOn with
  | nil => exact Stacked.idle_unused source
  | append_singleton names name ih =>
      rw [after, List.foldl_append]
      exact (named_idle genuine counted options ih name).2.2

end

/-- A resolver is not changed by what was asked of it before, in any of the ways in which a call can
fail: no chain is left open, every template at hand is compiled from the loader's text of its name,
and the next call ends and warns as the first call of a new resolver does, which is the one without a
stack. -/
theorem named_again (loader : Option Loader) (delimiters : Delimiters) (options : Options)
    (earlier : List String) (name : String) :
    let source := Loader.source loader delimiters options
    let used := after source options earlier .unused
    used.stack = [] ∧
      (∀ stored template, used.state.table.get? stored = some template →
        ∃ text, loader.bind (·.load? stored) = some text ∧
          Template.compile delimiters options.depth stored text = .ok template) ∧
      (named source options name used).1 = (named source options name .unused).1 ∧
      (named source options name used).2.state.warnings =
        used.state.warnings ++ (named source options name .unused).2.state.warnings ∧
      (named source options name .unused).1 =
        (Resolver.named source options name { table := [], supply := () }).1 := by
  intro source used
  have genuine : Originals fun name => (source.fetch name ()).1.toOption := by
    have own : State.OwnNamed Stacked.unused.state := fun _ _ found => by cases found
    exact originals_find own Dictionary.Each.nil
  have counted := (loader_counts loader delimiters options).counted
  have idle : used.Idle source := after_idle genuine counted options earlier
  obtain ⟨same, warned, _⟩ := named_idle genuine counted options idle name
  refine ⟨idle.stack, fun stored template found => ?_, same, warned, ?_⟩
  · exact Loader.source_fetch_ok.mp (idle.backed stored template found)
  · exact congrArg Prod.fst (named_unwinds source options name _)

end Stacking

end Resolver

end Templating
