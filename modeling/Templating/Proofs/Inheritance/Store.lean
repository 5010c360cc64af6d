import Templating.Proofs.Inheritance.Gathering

/-!
Stores: the templates at hand and those of a supply that never changes. Loading moves templates from
the supply to the table and leaves the store as it is, so that what a name resolves to does not
depend on when it is asked for.
-/

namespace Templating.Resolver

variable {source : Source Unit} {options : Options}

/-- The template of a name in the store. -/
def State.find (source : Source Unit) (state : State Unit) (name : String) : Option Template :=
  (state.table.get? name).or (source.fetch name ()).1.toOption

theorem State.find_of_get? {state : State Unit} {name : String} {template : Template}
    (known : state.table.get? name = some template) : state.find source name = some template := by
  rw [find, known]
  rfl

theorem State.find_of_table_eq {before after : State Unit} (same : after.table = before.table) :
    after.find source = before.find source := by
  funext name
  rw [find, find, same]

theorem load_find {name : String} {before after : State Unit}
    {outcome : Except Fault (Option Template)} (run : load source name before = (outcome, after)) :
    after.find source = before.find source := by
  cases known : before.table.get? name with
  | some template =>
      rw [load_known known] at run
      cases run
      rfl
  | none =>
      cases fetched : source.fetch name before.supply with
      | mk fetch supply =>
          rcases fetch with (_ | fault) | template
          · rw [load_missing known fetched] at run
            cases run
            rfl
          · rw [load_fault known fetched] at run
            cases run
            rfl
          · rw [load_fetched known fetched] at run
            cases run
            funext other
            rw [State.find, State.find, Dictionary.get?_set]
            by_cases same : other = name
            · rw [if_pos same, same, known, show source.fetch name () = (.ok template, supply) from
                fetched]
              rfl
            · rw [if_neg same]

/-- A name loads to its template in the store, if there is one. -/
theorem load_iff_find {name : String} {template : Template} {before : State Unit} :
    (∃ after, load source name before = (.ok (some template), after)) ↔
      before.find source name = some template := by
  constructor
  · rintro ⟨after, run⟩
    rw [← load_find run]
    exact State.find_of_get? (load_found run)
  · intro found
    rw [State.find] at found
    cases known : before.table.get? name with
    | some old =>
        rw [known] at found
        cases found
        exact ⟨before, load_known known⟩
    | none =>
        rw [known, Option.none_or] at found
        cases fetched : source.fetch name before.supply with
        | mk fetch supply =>
            rw [show source.fetch name () = (fetch, supply) from fetched] at found
            cases fetch with
            | error => cases found
            | ok other =>
                cases found
                exact ⟨_, load_fetched known fetched⟩

theorem chain_find {visited : List String} {left : Nat} {template : Template}
    {before after : State Unit} {above : Chain}
    (run : chain source options visited left template before = (.ok above, after)) :
    after.find source = before.find source := by
  induction left generalizing visited template before after above with
  | zero =>
      obtain ⟨_, _, same, _⟩ := chain_ok.mp run
      cases same
  | succ left ih =>
      obtain ⟨_, _, ⟨rfl⟩, ⟨_, rfl, _⟩ | ⟨_, _, _, _, _, _, _, loaded, followed, overridden, _⟩⟩ :=
        chain_ok.mp run
      · rfl
      · obtain ⟨_, _, rfl⟩ := override_ok.mp overridden
        rw [← load_find loaded, ← ih followed]
        exact State.find_of_table_eq rfl

/-- The template of this name and its ancestors are in the store, they can be put together, and this
body is what they give. -/
def Yields (options : Options) (find : String → Option Template) (name : String)
    (body : List Node) : Prop :=
  ∃ template ancestors above, find name = some template ∧ template.Descends find ancestors ∧
    Chain.Follows options [] options.depth template ancestors above ∧ above.body = body

theorem Yields.unique {find : String → Option Template} {name : String} {body other : List Node}
    (yields : Yields options find name body) (again : Yields options find name other) :
    other = body := by
  obtain ⟨template, ancestors, above, found, descends, follows, rfl⟩ := yields
  obtain ⟨_, others, further, foundAgain, descendsAgain, followsAgain, rfl⟩ := again
  rw [found] at foundAgain
  cases foundAgain
  rw [followsAgain.body, follows.body, descends.unique descendsAgain]

theorem Yields.mono {find other : String → Option Template} {name : String} {body : List Node}
    (yields : Yields options find name body)
    (keeps : ∀ name found, find name = some found → other name = some found) :
    Yields options other name body := by
  obtain ⟨template, ancestors, above, found, descends, follows, same⟩ := yields
  exact ⟨template, ancestors, above, keeps name template found, descends.mono keeps, follows, same⟩

/-- A chain that is in the store can be followed from any state with this store. -/
theorem chain_of_follows {visited : List String} {left : Nat} {template : Template}
    {ancestors : List Template} {find : String → Option Template} {above : Chain}
    (descends : template.Descends find ancestors)
    (follows : Chain.Follows options visited left template ancestors above)
    (before : State Unit) (stored : before.find source = find) :
    ∃ again after, chain source options visited left template before = (.ok again, after) ∧
      again.body = above.body := by
  induction descends generalizing visited left above before with
  | root parentless =>
      obtain ⟨left, rfl⟩ := Nat.exists_eq_succ_of_ne_zero (Nat.ne_of_gt follows.short)
      have fresh := (List.nodup_append'.mp follows.distinct).2.2
      refine ⟨_, before, chain_ok.mpr ⟨?_, left, rfl, .inl ⟨parentless, rfl, rfl⟩⟩,
        follows.body.symm⟩
      exact fun visit => fresh visit List.mem_cons_self
  | @child template parent name further extended found _ ih =>
      obtain ⟨left, rfl⟩ := Nat.exists_eq_succ_of_ne_zero (Nat.ne_of_gt
        (Nat.lt_of_le_of_lt (Nat.zero_le _) follows.short))
      have fresh := (List.nodup_append'.mp follows.distinct).2.2
      obtain ⟨between, loaded⟩ := load_iff_find.mpr (stored ▸ found)
      have followsParent : Chain.Follows options (visited ++ [template.name]) left parent further
          ⟨parent.merged further, [], (parent :: further).map (·.name)⟩ :=
        { body := rfl
          names := rfl
          complete := fun strict => (follows.complete strict).2
          distinct := by simpa using follows.distinct
          short := Nat.lt_of_succ_lt_succ follows.short }
      obtain ⟨rest, middle, followed, body⟩ := ih followsParent between
        ((load_find loaded).trans stored)
      refine ⟨_, _, chain_ok.mpr ⟨fun visit => fresh visit List.mem_cons_self, left, rfl,
        .inr ⟨name, parent, rest, _, between, middle, extended, loaded, followed,
          override_ok.mpr ⟨?_, rfl, rfl⟩, rfl⟩⟩, ?_⟩
      · intro strict
        rw [body]
        exact (follows.complete strict).1
      · rw [body, follows.body]
        rfl

/-- Loading a template and following its chain succeeds exactly when the store yields a body. -/
theorem yields_iff {name : String} {body : List Node} {before : State Unit} :
    (∃ template above between after, load source name before = (.ok (some template), between) ∧
      chain source options [] options.depth template between = (.ok above, after) ∧
      above.body = body) ↔ Yields options (before.find source) name body := by
  constructor
  · rintro ⟨template, above, between, after, loaded, followed, same⟩
    obtain ⟨ancestors, descends, follows⟩ := chain_follows List.nodup_nil followed
    refine ⟨template, ancestors, above, load_iff_find.mp ⟨between, loaded⟩, ?_, follows, same⟩
    refine descends.mono fun other found known => ?_
    rw [← load_find loaded, ← chain_find followed]
    exact State.find_of_get? known
  · rintro ⟨template, ancestors, above, found, descends, follows, rfl⟩
    obtain ⟨between, loaded⟩ := load_iff_find.mpr found
    obtain ⟨again, after, followed, body⟩ :=
      chain_of_follows descends follows between (load_find loaded)
    exact ⟨template, again, between, after, loaded, followed, body⟩

end Templating.Resolver
