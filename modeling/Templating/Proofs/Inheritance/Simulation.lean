import Templating.Proofs.Inheritance.Worklist

/-!
A supply that remembers what it gave is no different from one that does not: the resolver does the
same with both, whether it succeeds or fails.
-/

namespace Templating.Resolver

open Node

variable {σ α β : Type}

/-- The state without what the supply remembers. -/
def State.plain (state : State σ) : State Unit :=
  { table := state.table, supply := (), warnings := state.warnings }

/-- In these states of the supply the source gives what the plain one gives. -/
structure Mirrors (source : Source σ) (plain : Source Unit) (good : σ → Prop) : Prop where
  fetch : ∀ name supply, good supply → (source.fetch name supply).1 = (plain.fetch name ()).1
  keeps : ∀ name supply, good supply → good (source.fetch name supply).2
  known : ∀ supply, plain.known () ≤ source.known supply

/-- The run and the plain run end alike from this state. -/
def SimulatesAt (good : σ → Prop) (before : State σ) (run : Resolving σ α)
    (plainRun : Resolving Unit α) : Prop :=
  ∀ outcome after, run before = (outcome, after) →
    plainRun before.plain = (outcome, after.plain) ∧ good after.supply

/-- They do so from every good state. -/
def Simulates (good : σ → Prop) (run : Resolving σ α) (plainRun : Resolving Unit α) : Prop :=
  ∀ before, good before.supply → SimulatesAt good before run plainRun

section

variable {good : σ → Prop} {run : Resolving σ α} {plainRun : Resolving Unit α}
  {next : α → Resolving σ β} {plainNext : α → Resolving Unit β}

theorem SimulatesAt.bind {before : State σ} (simulates : SimulatesAt good before run plainRun)
    (continues : ∀ value, Simulates good (next value) (plainNext value)) :
    SimulatesAt good before (run >>= next) (plainRun >>= plainNext) := by
  intro outcome after same
  cases first : run before with
  | mk result between =>
      obtain ⟨plainFirst, kept⟩ := simulates result between first
      cases result with
      | ok value =>
          rw [Run.bind_ok first] at same
          rw [Run.bind_ok plainFirst]
          exact continues value between kept outcome after same
      | error fault =>
          rw [Run.bind_error first] at same
          cases same
          rw [Run.bind_error plainFirst]
          exact ⟨rfl, kept⟩

namespace Simulates

theorem pure (value : α) :
    Simulates good (pure value : Resolving σ α) (pure value : Resolving Unit α) := by
  intro before kept outcome after same
  cases same
  exact ⟨rfl, kept⟩

theorem throw (fault : Fault) :
    Simulates good (throw fault : Resolving σ α) (throw fault : Resolving Unit α) := by
  intro before kept outcome after same
  cases same
  exact ⟨rfl, kept⟩

theorem bind (simulates : Simulates good run plainRun)
    (continues : ∀ value, Simulates good (next value) (plainNext value)) :
    Simulates good (run >>= next) (plainRun >>= plainNext) :=
  fun before kept => (simulates before kept).bind continues

/-- What is read of a state must not depend on the supply. -/
theorem get {next : State σ → Resolving σ β} {plainNext : State Unit → Resolving Unit β}
    (continues : ∀ state, good state.supply →
      SimulatesAt good state (next state) (plainNext state.plain)) :
    Simulates good (get >>= next) (get >>= plainNext) :=
  fun before kept => continues before kept

theorem modify {change : State σ → State σ} {plainChange : State Unit → State Unit}
    (alike : ∀ state, (change state).plain = plainChange state.plain)
    (keeps : ∀ state, (change state).supply = state.supply) :
    Simulates good (modify change : Resolving σ PUnit) (modify plainChange : Resolving Unit PUnit) := by
  intro before kept outcome after same
  cases same
  exact ⟨congrArg (Prod.mk (Except.ok PUnit.unit)) (alike before).symm,
    (keeps before).symm ▸ kept⟩

end Simulates

end

section

variable {source : Source σ} {plain : Source Unit} {good : σ → Prop} {options : Options}
  (mirrors : Mirrors source plain good)

include mirrors

theorem load_simulates (name : String) : Simulates good (load source name) (load plain name) := by
  intro before kept outcome after run
  cases known : before.table.get? name with
  | some template =>
      have plainKnown : before.plain.table.get? name = some template := known
      rw [load_known known] at run
      cases run
      exact ⟨load_known plainKnown, kept⟩
  | none =>
      have plainKnown : before.plain.table.get? name = none := known
      have gives := mirrors.fetch name before.supply kept
      have keeps := mirrors.keeps name before.supply kept
      cases fetched : source.fetch name before.supply with
      | mk fetch supply =>
          rw [fetched] at gives keeps
          have plainFetched : plain.fetch name before.plain.supply = (fetch, ()) :=
            Prod.ext gives.symm rfl
          rcases fetch with (_ | fault) | template
          · rw [load_missing known fetched] at run
            cases run
            exact ⟨load_missing plainKnown plainFetched, keeps⟩
          · rw [load_fault known fetched] at run
            cases run
            exact ⟨load_fault plainKnown plainFetched, keeps⟩
          · rw [load_fetched known fetched] at run
            cases run
            exact ⟨load_fetched plainKnown plainFetched, keeps⟩

theorem loadReferenced_simulates (name : String) (referrer : Option Template)
    (position : Option Position) :
    Simulates good (loadReferenced source name referrer position)
      (loadReferenced plain name referrer position) := by
  refine .bind (load_simulates mirrors name) fun found => ?_
  cases found with
  | some template => exact .pure template
  | none => exact .throw _

omit mirrors in
theorem override_simulates (mode : OverrideMode) (child : Template) (parentName : String)
    (parentBody : List Node) :
    Simulates good (override mode child parentName parentBody : Resolving σ _)
      (override mode child parentName parentBody) := by
  by_cases complete : mode = .strict → unknownBlocks child.overrides parentBody = []
  · intro before kept outcome after run
    rw [override_known parentName complete] at run
    cases run
    exact ⟨override_known parentName complete before.plain, kept⟩
  · obtain ⟨rfl, some⟩ := Classical.not_imp.mp complete
    obtain ⟨⟨name, block⟩, rest, unknown⟩ := List.exists_cons_of_ne_nil some
    intro before kept outcome after run
    rw [override_unknown unknown] at run
    cases run
    exact ⟨override_unknown unknown before.plain, kept⟩

theorem chain_simulates (visited : List String) (left : Nat) (template : Template) :
    Simulates good (chain source options visited left template)
      (chain plain options visited left template) := by
  induction left generalizing visited template with
  | zero =>
      unfold chain
      split
      · exact .get fun state kept => Simulates.throw _ state kept
      · exact .throw _
  | succ left ih =>
      unfold chain
      split
      · exact .get fun state kept => Simulates.throw _ state kept
      · dsimp only
        cases template.parent? with
        | none => exact .pure _
        | some parentName =>
            exact .bind (loadReferenced_simulates mirrors parentName _ _) fun parent =>
              .bind (ih (visited ++ [template.name]) parent) fun above =>
                .bind (override_simulates _ template parentName above.body) fun body => .pure _

theorem gather_simulates (turns : Nat) (waiting : List Inclusion) (sources : Dictionary String)
    (includes : Dictionary (List Node)) :
    Simulates good (gather source options turns waiting sources includes)
      (gather plain options turns waiting sources includes) := by
  induction turns generalizing waiting sources includes with
  | zero => exact .pure _
  | succ turns ih =>
      rw [gather, gather]
      cases waiting.dropWhile fun next => includes.has next.name with
      | nil => exact .pure _
      | cons next rest =>
          exact .get fun state kept =>
            (loadReferenced_simulates mirrors next.name _ _ state kept).bind fun included =>
              .bind (chain_simulates mirrors [] options.depth included) fun above => ih _ _ _

end

section

variable {loader : Option Loader} {delimiters : Delimiters} {options : Options} {source : Source σ}
  {good : σ → Prop} (mirrors : Mirrors source (Loader.source loader delimiters options) good)

include mirrors

/-- The supplies may count their names differently, but none of them counts too few. -/
theorem gather_all_simulates (body : List Node) (sources : Dictionary String) (state : State σ)
    (kept : good state.supply) :
    SimulatesAt good state
      (gather source options (state.table.length + source.known state.supply + 1)
        (bodyInclusions body) sources [])
      (gather (Loader.source loader delimiters options) options
        (state.plain.table.length +
          (Loader.source loader delimiters options).known state.plain.supply + 1)
        (bodyInclusions body) sources []) := by
  intro outcome after run
  have enough := Nat.add_le_add_right
    (Nat.add_le_add_left (mirrors.known state.supply) state.table.length) 1
  rw [← gather_enough (loader_counts loader delimiters options).counted state.plain body sources
    enough]
  exact gather_simulates mirrors _ _ _ _ state kept outcome after run

theorem template_simulates (main : Template) :
    Simulates good (template source options main)
      (template (Loader.source loader delimiters options) options main) := by
  refine .bind (.modify (fun state => ?_) (fun state => ?_)) fun _ =>
    .bind (chain_simulates mirrors [] options.depth main) fun above =>
      .get fun state kept =>
        (gather_all_simulates mirrors above.body above.sources state kept).bind fun _ => .pure _
  · by_cases known : state.table.has main.name <;> simp [State.plain, known]
  · by_cases known : state.table.has main.name <;> simp [known]

theorem named_simulates (name : String) :
    Simulates good (named source options name)
      (named (Loader.source loader delimiters options) options name) := by
  refine .bind (load_simulates mirrors name) fun found => ?_
  cases found with
  | none => exact .throw _
  | some main => exact template_simulates mirrors main

end

end Templating.Resolver
