import Mathlib.Data.List.Perm.Subperm
import Templating.Proofs.Inheritance.Gathering

/-!
The loop over the inclusions that wait has turns enough: it includes a new name in each of them, and
a source counts the names that it has templates for.
-/

namespace Templating

open Node

variable {σ : Type}

namespace Source

/-- Fetching keeps the supply good, and gives templates for these names only. -/
def Offers (source : Source σ) (good : σ → Prop) (names : List String) : Prop :=
  ∀ name supply, good supply → good (source.fetch name supply).2 ∧
    ∀ template, (source.fetch name supply).1 = .ok template → name ∈ names

/-- The source has templates for no more names than it counts, whatever is fetched. -/
def Counted (source : Source σ) : Prop :=
  ∀ supply, ∃ good names, good supply ∧ source.Offers good names ∧
    names.length ≤ source.known supply

theorem Offers.mono {source : Source σ} {good : σ → Prop} {names more : List String}
    (offers : source.Offers good names) (subset : ∀ name ∈ names, name ∈ more) :
    source.Offers good more :=
  fun name supply kept => ⟨(offers name supply kept).1, fun template gives =>
    subset name ((offers name supply kept).2 template gives)⟩

end Source

namespace Resolver

variable {source : Source σ} {options : Options} {good : σ → Prop} {names : List String}

/-- The supply is good, and all templates at hand have these names. -/
structure State.Among (good : σ → Prop) (names : List String) (state : State σ) : Prop where
  supply : good state.supply
  table : ∀ name, state.table.has name = true → name ∈ names

theorem load_among (offers : source.Offers good names) {before after : State σ}
    (among : before.Among good names) {name : String} {template : Template}
    (run : load source name before = (.ok (some template), after)) :
    after.Among good names ∧ name ∈ names := by
  cases known : before.table.get? name with
  | some found =>
      rw [load_known known] at run
      cases run
      refine ⟨among, among.table name ?_⟩
      rw [Dictionary.has_eq_isSome, known]
      rfl
  | none =>
      obtain ⟨kept, offered⟩ := offers name before.supply among.supply
      cases fetched : source.fetch name before.supply with
      | mk fetch supply =>
          rw [fetched] at kept offered
          rcases fetch with (_ | fault) | found
          · rw [load_missing known fetched] at run
            cases run
          · rw [load_fault known fetched] at run
            cases run
          · rw [load_fetched known fetched] at run
            cases run
            refine ⟨⟨kept, fun other has => ?_⟩, offered template rfl⟩
            rw [Dictionary.has_eq_isSome, Dictionary.get?_set] at has
            split at has
            · rename_i same
              rw [same]
              exact offered template rfl
            · exact among.table other (Dictionary.has_eq_isSome _ other ▸ has)

theorem chain_among (offers : source.Offers good names) {visited : List String} {left : Nat}
    {template : Template} {before after : State σ} {above : Chain}
    (among : before.Among good names)
    (run : chain source options visited left template before = (.ok above, after)) :
    after.Among good names := by
  induction left generalizing visited template before after above with
  | zero =>
      obtain ⟨_, _, same, _⟩ := chain_ok.mp run
      cases same
  | succ left ih =>
      obtain ⟨_, _, ⟨rfl⟩, ⟨_, rfl, _⟩ | ⟨_, _, _, _, _, _, _, loaded, followed, overridden, _⟩⟩ :=
        chain_ok.mp run
      · exact among
      · obtain ⟨_, _, rfl⟩ := override_ok.mp overridden
        have kept := ih (load_among offers among loaded).1 followed
        exact ⟨kept.supply, kept.table⟩

/-- More turns than there are names left to include are never used. -/
theorem gather_more (offers : source.Offers good names) {turns : Nat} (more : Nat)
    {waiting : List Inclusion} {sources : Dictionary String} {includes : Dictionary (List Node)}
    {before : State σ} (among : before.Among good names) (distinct : includes.names.Nodup)
    (included : ∀ name ∈ includes.names, name ∈ names)
    (enough : names.length < turns + includes.length) :
    gather source options (turns + more) waiting sources includes before =
      gather source options turns waiting sources includes before := by
  induction turns generalizing waiting sources includes before with
  | zero =>
      have keys : includes.names.length = includes.length := List.length_map _
      have bound := (distinct.subperm included).length_le
      omega
  | succ turns ih =>
      rw [Nat.succ_add, gather, gather]
      cases first : waiting.dropWhile fun next => includes.has next.name with
      | nil => rfl
      | cons next rest =>
          dsimp only
          rw [Run.get_bind, Run.get_bind]
          cases loaded : loadReferenced source next.name
              (before.table.get? ((next.position.map (·.template)).getD "")) next.position before with
          | mk outcome between =>
              cases outcome with
              | error fault => rw [Run.bind_error loaded, Run.bind_error loaded]
              | ok found =>
                  rw [Run.bind_ok loaded, Run.bind_ok loaded]
                  obtain ⟨amongThen, offered⟩ :=
                    load_among offers among (loadReferenced_ok.mp loaded)
                  cases followed : chain source options [] options.depth found between with
                  | mk outcome middle =>
                      cases outcome with
                      | error fault => rw [Run.bind_error followed, Run.bind_error followed]
                      | ok above =>
                          rw [Run.bind_ok followed, Run.bind_ok followed]
                          obtain ⟨absent, _⟩ := pending_cons first
                          refine ih (chain_among offers amongThen followed)
                            (Dictionary.nodup_set_of_absent absent distinct _) ?_ ?_
                          · rw [Dictionary.names_set_of_absent absent]
                            exact List.forall_mem_append.mpr
                              ⟨included, List.forall_mem_singleton.mpr offered⟩
                          · rw [Dictionary.set_of_absent absent, List.length_append,
                              List.length_singleton]
                            omega

/-- The number of turns that a resolver takes is enough, and more of them change nothing. -/
theorem gather_enough (counted : source.Counted) (state : State σ) (body : List Node)
    (sources : Dictionary String) {turns : Nat}
    (enough : state.table.length + source.known state.supply + 1 ≤ turns) :
    gather source options turns (bodyInclusions body) sources [] state =
      gather source options (state.table.length + source.known state.supply + 1)
        (bodyInclusions body) sources [] state := by
  obtain ⟨good, names, kept, offers, bound⟩ := counted state.supply
  obtain ⟨more, rfl⟩ := Nat.exists_eq_add_of_le enough
  have among : state.Among good (state.table.names ++ names) :=
    ⟨kept, fun name has =>
      List.mem_append_left _ ((Dictionary.has_iff_mem_names _ name).mp has)⟩
  refine gather_more (offers.mono fun _ => List.mem_append_right _) more among List.nodup_nil
    (List.forall_mem_nil _) ?_
  rw [List.length_append, Dictionary.names, List.length_map]
  exact Nat.lt_succ_of_le (Nat.add_le_add_left bound _)

end Resolver

end Templating
