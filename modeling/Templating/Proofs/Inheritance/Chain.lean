import Mathlib.Data.List.Nodup
import Templating.Proofs.Inheritance.Lineage

/-!
Runs of the resolver along a chain of parents: what a run that succeeds did, one lemma for each
step, and what the whole run gives.
-/

namespace Templating.Resolver

variable {σ : Type} {source : Source σ} {options : Options}

/-- The templates at hand stay at hand. -/
def State.Extends (before after : State σ) : Prop :=
  ∀ name template, before.table.get? name = some template → after.table.get? name = some template

namespace State.Extends

theorem refl (state : State σ) : state.Extends state :=
  fun _ _ found => found

theorem trans {first second third : State σ} (left : first.Extends second)
    (right : second.Extends third) : first.Extends third :=
  fun name template found => right name template (left name template found)

theorem of_table_eq {before after : State σ} (same : after.table = before.table) :
    before.Extends after :=
  fun _ _ found => same ▸ found

theorem set {before after : State σ} {name : String} {template : Template}
    (unknown : before.table.get? name = none)
    (added : after.table = before.table.set name template) : before.Extends after := by
  intro other found known
  rw [added, Dictionary.get?_set]
  by_cases same : other = name
  · rw [same, unknown] at known
    cases known
  · rw [if_neg same, known]

end State.Extends

theorem load_extends {name : String} {before after : State σ}
    {outcome : Except Fault (Option Template)} (run : load source name before = (outcome, after)) :
    before.Extends after := by
  cases known : before.table.get? name with
  | some template =>
      rw [load_known known] at run
      cases run
      exact .refl before
  | none =>
      cases fetched : source.fetch name before.supply with
      | mk fetch supply =>
          rcases fetch with (_ | fault) | template
          · rw [load_missing known fetched] at run
            cases run
            exact .of_table_eq rfl
          · rw [load_fault known fetched] at run
            cases run
            exact .of_table_eq rfl
          · rw [load_fetched known fetched] at run
            cases run
            exact .set known rfl

/-- A template that is loaded is at hand afterwards. -/
theorem load_found {name : String} {template : Template} {before after : State σ}
    (run : load source name before = (.ok (some template), after)) :
    after.table.get? name = some template := by
  cases known : before.table.get? name with
  | some old =>
      rw [load_known known] at run
      cases run
      exact known
  | none =>
      cases fetched : source.fetch name before.supply with
      | mk fetch supply =>
          rcases fetch with (_ | fault) | new
          · rw [load_missing known fetched] at run
            cases run
          · rw [load_fault known fetched] at run
            cases run
          · rw [load_fetched known fetched] at run
            cases run
            exact Dictionary.get?_set_self _ _ _

theorem loadReferenced_ok {name : String} {referrer : Option Template} {position : Option Position}
    {template : Template} {before after : State σ} :
    loadReferenced source name referrer position before = (.ok template, after) ↔
      load source name before = (.ok (some template), after) := by
  rw [loadReferenced, Run.bind_eq_ok]
  constructor
  · rintro ⟨found, between, run, rest⟩
    cases found with
    | none => cases rest
    | some found =>
        cases rest
        exact run
  · intro run
    exact ⟨some template, after, run, rfl⟩

/-- The first unknown block stops strict overriding. -/
theorem override_unknown {child : Template} {parentName : String} {parentBody : List Node}
    {name : String} {block : Node} {rest : Dictionary Node}
    (unknown : unknownBlocks child.overrides parentBody = (name, block) :: rest)
    (before : State σ) :
    override .strict child parentName parentBody before =
      (.error (.of (.inheritance (.unknownBlock name child.name parentName)) block.position
        (some child.source)), before) := by
  unfold override
  rw [Template.overrides] at unknown
  simp only [unknown]
  rfl

/-- Overriding gives the merged body, with nothing added to it in strict mode. -/
theorem override_known {mode : OverrideMode} {child : Template} (parentName : String)
    {parentBody : List Node}
    (complete : mode = .strict → unknownBlocks child.overrides parentBody = [])
    (before : State σ) :
    override mode child parentName parentBody before =
      (.ok (Node.substituteBody child.overrides parentBody ++
        (unknownBlocks child.overrides parentBody).map (·.2)),
        { before with warnings := before.warnings ++
          (unknownBlocks child.overrides parentBody).map fun entry =>
            ⟨entry.1, child.name, parentName⟩ }) := by
  unfold override
  rw [Template.overrides] at complete ⊢
  cases mode with
  | strict =>
      simp only [complete rfl]
      rfl
  | lenient => rfl

theorem override_ok {mode : OverrideMode} {child : Template} {parentName : String}
    {parentBody body : List Node} {before after : State σ} :
    override mode child parentName parentBody before = (.ok body, after) ↔
      (mode = .strict → unknownBlocks child.overrides parentBody = []) ∧
      body = Node.substituteBody child.overrides parentBody ++
        (unknownBlocks child.overrides parentBody).map (·.2) ∧
      after = { before with warnings := before.warnings ++
        (unknownBlocks child.overrides parentBody).map fun entry =>
          ⟨entry.1, child.name, parentName⟩ } := by
  by_cases complete : mode = .strict → unknownBlocks child.overrides parentBody = []
  · rw [override_known parentName complete]
    constructor
    · intro run
      cases run
      exact ⟨complete, rfl, rfl⟩
    · rintro ⟨_, rfl, rfl⟩
      rfl
  · obtain ⟨rfl, some⟩ := Classical.not_imp.mp complete
    obtain ⟨⟨name, block⟩, rest, unknown⟩ := List.exists_cons_of_ne_nil some
    rw [override_unknown unknown]
    constructor
    · intro run
      cases run
    · intro known
      exact absurd known.1 complete

/-- What a chain did that was followed to its end. -/
theorem chain_ok {visited : List String} {left : Nat} {template : Template}
    {before after : State σ} {above : Chain} :
    chain source options visited left template before = (.ok above, after) ↔
      template.name ∉ visited ∧ ∃ further, left = further + 1 ∧
        ((template.parent? = none ∧ after = before ∧ above =
            ⟨template.body, [(template.name, template.source)], [template.name]⟩) ∨
          ∃ parentName parent rest body between middle,
            template.parent? = some parentName ∧
            load source parentName before = (.ok (some parent), between) ∧
            chain source options (visited ++ [template.name]) further parent between =
              (.ok rest, middle) ∧
            override options.override template parentName rest.body middle = (.ok body, after) ∧
            above = ⟨body, rest.sources.set template.name template.source,
              template.name :: rest.names⟩) := by
  rw [chain.eq_def]
  dsimp only
  by_cases again : visited.contains template.name
  · have member : template.name ∈ visited := List.contains_iff_mem.mp again
    rw [if_pos again, Run.get_bind]
    constructor
    · intro run
      cases run
    · intro steps
      exact absurd member steps.1
  · have fresh : template.name ∉ visited := fun member => again (List.contains_iff_mem.mpr member)
    rw [if_neg again]
    cases left with
    | zero =>
        constructor
        · intro run
          cases run
        · rintro ⟨_, further, same, _⟩
          cases same
    | succ further =>
        dsimp only
        cases extended : template.parent? with
        | none =>
            constructor
            · intro run
              cases run
              exact ⟨fresh, further, rfl, .inl ⟨rfl, rfl, rfl⟩⟩
            · rintro ⟨_, _, _, ⟨_, rfl, rfl⟩ | ⟨_, _, _, _, _, _, impossible, _⟩⟩
              · rfl
              · cases impossible
        | some parentName =>
            dsimp only
            simp only [Run.bind_eq_ok, loadReferenced_ok]
            constructor
            · rintro ⟨parent, between, loaded, rest, middle, followed, body, last, overridden, done⟩
              cases done
              exact ⟨fresh, further, rfl, .inr ⟨parentName, parent, rest, body, between, middle, rfl,
                loaded, followed, overridden, rfl⟩⟩
            · rintro ⟨_, _, same, ⟨impossible, _⟩ | ⟨_, parent, rest, body, between, middle,
                sameName, loaded, followed, overridden, rfl⟩⟩
              · cases impossible
              · cases sameName
                cases same
                exact ⟨parent, between, loaded, rest, middle, followed, body, after, overridden, rfl⟩

/-- The chain of a template with these ancestors, when so many templates may be on it and these are
on the way to it. -/
structure Chain.Follows (options : Options) (visited : List String) (left : Nat)
    (template : Template) (ancestors : List Template) (above : Chain) : Prop where
  body : above.body = template.merged ancestors
  names : above.names = (template :: ancestors).map (·.name)
  complete : options.override = .strict → template.Complete ancestors
  distinct : (visited ++ (template :: ancestors).map (·.name)).Nodup
  short : ancestors.length < left

theorem chain_extends {visited : List String} {left : Nat} {template : Template}
    {before after : State σ} {above : Chain}
    (run : chain source options visited left template before = (.ok above, after)) :
    before.Extends after := by
  induction left generalizing visited template before after above with
  | zero =>
      obtain ⟨_, _, same, _⟩ := chain_ok.mp run
      cases same
  | succ left ih =>
      obtain ⟨_, _, ⟨rfl⟩, ⟨_, rfl, _⟩ | ⟨_, _, _, _, _, _, _, loaded, followed, overridden, _⟩⟩ :=
        chain_ok.mp run
      · exact .refl after
      · obtain ⟨_, _, rfl⟩ := override_ok.mp overridden
        exact (load_extends loaded).trans ((ih followed).trans (.of_table_eq rfl))

/-- A chain that is followed to its end is the chain of the ancestors at hand. -/
theorem chain_follows {visited : List String} {left : Nat} {template : Template}
    {before after : State σ} {above : Chain} (unvisited : visited.Nodup)
    (run : chain source options visited left template before = (.ok above, after)) :
    ∃ ancestors, Template.Descends after.table.get? template ancestors ∧
      Chain.Follows options visited left template ancestors above := by
  induction left generalizing visited template before after above with
  | zero =>
      obtain ⟨_, _, same, _⟩ := chain_ok.mp run
      cases same
  | succ left ih =>
      obtain ⟨fresh, _, ⟨rfl⟩, ends⟩ := chain_ok.mp run
      have longer : (visited ++ [template.name]).Nodup := by
        rw [List.nodup_append]
        refine ⟨unvisited, List.nodup_singleton _, ?_⟩
        rintro _ member _ single rfl
        exact fresh (List.mem_singleton.mp single ▸ member)
      obtain ⟨parentless, rfl, rfl⟩ | ⟨parentName, parent, rest, body, between, middle, extended,
        loaded, followed, overridden, rfl⟩ := ends
      · exact ⟨[], .root parentless, rfl, rfl, fun _ => trivial, longer, Nat.succ_pos left⟩
      · obtain ⟨ancestors, descends, follows⟩ := ih longer followed
        obtain ⟨complete, rfl, rfl⟩ := override_ok.mp overridden
        refine ⟨parent :: ancestors, ?_, ?_, ?_, ?_, ?_, ?_⟩
        · exact .child extended (chain_extends followed _ _ (load_found loaded)) descends
        · rw [follows.body]
          rfl
        · rw [follows.names]
          rfl
        · intro strict
          rw [follows.body] at complete
          exact ⟨complete strict, follows.complete strict⟩
        · simpa using follows.distinct
        · exact Nat.succ_lt_succ follows.short

end Templating.Resolver
