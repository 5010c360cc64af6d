import Templating.Proofs.Inheritance.Store

/-!
Walks along the parents of a template: from a name to the name that its template extends, and so on,
to the first name at which the walk cannot or need not go on.
-/

namespace Templating.Resolver

/-- What the store answers for a name: a template, or why there is none. -/
def State.lookup (source : Source Unit) (state : State Unit) (name : String) :
    Except FetchFailure Template :=
  match state.table.get? name with
  | some template => .ok template
  | none => (source.fetch name ()).1

abbrev Lookup := String → Except FetchFailure Template

/-- From the start through these templates, each extended by the one before it, to a name. -/
inductive Walk (lookup : Lookup) (start : String) : List Template → String → Prop where
  | start : Walk lookup start [] start
  | step {trail : List Template} {name parentName : String} {template : Template}
      (walk : Walk lookup start trail name) (found : lookup name = .ok template)
      (extended : template.parent? = some parentName) :
      Walk lookup start (trail ++ [template]) parentName

def names (trail : List Template) : List String :=
  trail.map (·.name)

/-- Why a walk fails at a name that it has reached. `absent` is the fault of a start that does not
exist. -/
inductive Stops (options : Options) (lookup : Lookup) (absent : Fault) (trail : List Template)
    (name : String) : Fault → Prop where
  | missingStart (unknown : lookup name = .error .notFound) (first : trail = []) :
      Stops options lookup absent trail name absent
  | missing {child : Template} (unknown : lookup name = .error .notFound)
      (last : trail.getLast? = some child) :
      Stops options lookup absent trail name
        (.of (.inheritance (.missingReferenced name child.name)) child.parentPosition
          (some child.source))
  | broken {fault : Fault} (fails : lookup name = .error (.fault fault)) :
      Stops options lookup absent trail name fault
  | cyclic {closing : Template} {earlier between : List String}
      (again : names trail = earlier ++ name :: between) (last : trail.getLast? = some closing) :
      Stops options lookup absent trail name
        (.of (.inheritance (.cyclic (name :: between ++ [name]))) closing.parentPosition
          (some closing.source))
  | tooLong {template : Template} (found : lookup name = .ok template)
      (fresh : name ∉ names trail) (limit : options.depth ≤ trail.length) :
      Stops options lookup absent trail name
        (.of (.inheritance (.tooLong options.depth (names trail ++ [name])))
          template.parentPosition (some template.source))

/-- What a template and all its ancestors give: the merged body and the names of the chain, or the
fault of the strict override that fails first from the root on. -/
inductive Overlays (mode : OverrideMode) (template : Template) (ancestors : List Template) :
    Except Fault (List Node × List String) → Prop where
  | merged (complete : mode = .strict → template.Complete ancestors) :
      Overlays mode template ancestors
        (.ok (template.merged ancestors, names (template :: ancestors)))
  | unknown {nearer further : List Template} {child parent : Template} {name : String}
      {block : Node} {others : Dictionary Node} (strict : mode = .strict)
      (split : template :: ancestors = nearer ++ child :: parent :: further)
      (complete : parent.Complete further)
      (unknown : unknownBlocks child.overrides (parent.merged further) = (name, block) :: others) :
      Overlays mode template ancestors
        (.error (.of (.inheritance (.unknownBlock name child.name parent.name)) block.position
          (some child.source)))

/-- How a walk ends at a name that it has reached: it fails there, or there is the root of a complete
chain of distinct templates that is not too long, and overriding decides. -/
inductive Ends (options : Options) (lookup : Lookup) (absent : Fault) (trail : List Template)
    (name : String) : Except Fault (List Node × List String) → Prop where
  | stopped {fault : Fault} (stops : Stops options lookup absent trail name fault) :
      Ends options lookup absent trail name (.error fault)
  | root {leaf root : Template} {ancestors : List Template}
      {outcome : Except Fault (List Node × List String)} (found : lookup name = .ok root)
      (fresh : name ∉ names trail) (short : trail.length < options.depth)
      (parentless : root.parent? = none) (whole : trail ++ [root] = leaf :: ancestors)
      (overlays : Overlays options.override leaf ancestors outcome) :
      Ends options lookup absent trail name outcome

/-- The walk from a start has come to a name: the templates on the way exist, extend another one,
differ from each other and are no more than allowed, so it has not ended before. -/
structure Arrives (options : Options) (lookup : Lookup) (start : String) (trail : List Template)
    (name : String) : Prop where
  walk : Walk lookup start trail name
  distinct : (names trail).Nodup
  within : trail.length ≤ options.depth

section

variable {source : Source Unit} {options : Options}

theorem State.find_eq_lookup (state : State Unit) (name : String) :
    state.find source name = (state.lookup source name).toOption := by
  rw [find, lookup]
  cases state.table.get? name with
  | some => rfl
  | none => rfl

theorem State.lookup_of_get? {state : State Unit} {name : String} {template : Template}
    (known : state.table.get? name = some template) :
    state.lookup source name = .ok template := by
  rw [lookup, known]

theorem State.lookup_of_table_eq {before after : State Unit} (same : after.table = before.table) :
    after.lookup source = before.lookup source := by
  funext name
  rw [lookup, lookup, same]

/-- Loading a name gives what the store answers for it and leaves the store as it is. -/
theorem load_run (source : Source Unit) (name : String) (before : State Unit) :
    ∃ after, load source name before = ((match before.lookup source name with
        | .ok template => .ok (some template)
        | .error .notFound => .ok none
        | .error (.fault fault) => .error fault), after) ∧
      after.lookup source = before.lookup source := by
  cases known : before.table.get? name with
  | some template =>
      rw [load_known known, State.lookup_of_get? known]
      exact ⟨before, rfl, rfl⟩
  | none =>
      have answer : before.lookup source name = (source.fetch name ()).1 := by
        rw [State.lookup, known]
      cases fetched : source.fetch name before.supply with
      | mk fetch supply =>
          rw [answer, show source.fetch name () = (fetch, supply) from fetched]
          rcases fetch with (_ | fault) | template
          · rw [load_missing known fetched]
            exact ⟨_, rfl, State.lookup_of_table_eq rfl⟩
          · rw [load_fault known fetched]
            exact ⟨_, rfl, State.lookup_of_table_eq rfl⟩
          · rw [load_fetched known fetched]
            refine ⟨_, rfl, ?_⟩
            funext other
            rw [State.lookup, State.lookup, Dictionary.get?_set]
            by_cases same : other = name
            · rw [if_pos same, same, known,
                show source.fetch name () = (.ok template, supply) from fetched]
            · rw [if_neg same]

/-- A template that another one names is what the store has, or the other one is blamed. -/
theorem loadReferenced_run (source : Source Unit) (name : String) (referrer : Option Template)
    (position : Option Position) (before : State Unit) :
    ∃ after, loadReferenced source name referrer position before =
        ((match before.lookup source name with
          | .ok template => .ok template
          | .error .notFound => .error (.of (.inheritance (.missingReferenced name
              ((referrer.map (·.name)).getD "?"))) position (referrer.map (·.source)))
          | .error (.fault fault) => .error fault), after) ∧
      after.lookup source = before.lookup source := by
  obtain ⟨after, loaded, kept⟩ := load_run source name before
  refine ⟨after, ?_, kept⟩
  rw [loadReferenced]
  rcases answer : before.lookup source name with (_ | fault) | template
  · rw [answer] at loaded
    rw [Run.bind_ok loaded]
    rfl
  · rw [answer] at loaded
    rw [Run.bind_error loaded]
  · rw [answer] at loaded
    rw [Run.bind_ok loaded]
    rfl

theorem chain_lookup {visited : List String} {left : Nat} {template : Template}
    {before after : State Unit} {above : Chain}
    (run : chain source options visited left template before = (.ok above, after)) :
    after.lookup source = before.lookup source := by
  induction left generalizing visited template before after above with
  | zero =>
      obtain ⟨_, _, same, _⟩ := chain_ok.mp run
      cases same
  | succ left ih =>
      obtain ⟨_, _, ⟨rfl⟩, ⟨_, rfl, _⟩ | ⟨_, _, _, _, _, _, _, loaded, followed, overridden, _⟩⟩ :=
        chain_ok.mp run
      · rfl
      · obtain ⟨_, _, rfl⟩ := override_ok.mp overridden
        obtain ⟨between, again, kept⟩ := load_run source _ before
        rw [loaded] at again
        cases (Prod.mk.inj again).2
        rw [← kept, ← ih followed]
        exact State.lookup_of_table_eq rfl

end

theorem cycleThrough_eq {visited earlier between : List String} {name : String}
    (split : visited = earlier ++ name :: between) (distinct : visited.Nodup) :
    cycleThrough visited name = name :: between ++ [name] := by
  subst split
  have fresh : name ∉ earlier := fun member =>
    List.disjoint_of_nodup_append distinct member List.mem_cons_self
  have passed : ∀ other ∈ earlier, (other != name) = true := by
    intro other member
    exact bne_iff_ne.mpr fun same => fresh (same ▸ member)
  rw [cycleThrough, List.dropWhile_append_of_pos passed, List.dropWhile_cons]
  simp

end Templating.Resolver
