import Templating.Proofs.Inheritance.Gathering

/-!
What a resolver does to its supply is what its fetches do, one after the other. The last one may
fail, and then the resolver fails.
-/

namespace Templating.Resolver

open Node

variable {σ α β : Type} {source : Source σ}

theorem State.supply_adding (state : State σ) (template : Template) :
    (state.adding template).supply = state.supply := by
  rw [adding]
  split <;> rfl

/-- How fetches change a supply: `steps` for one or more that succeed, `ends` if the last one may
fail. -/
structure Moves (source : Source σ) (steps ends : σ → σ → Prop) : Prop where
  refl : ∀ supply, steps supply supply
  trans : ∀ {first second third}, steps first second → steps second third → steps first third
  whole : ∀ {first second}, steps first second → ends first second
  last : ∀ {first second third}, steps first second → ends second third → ends first third
  fetch : ∀ name supply, ends supply (source.fetch name supply).2 ∧
    ∀ template, (source.fetch name supply).1 = .ok template →
      steps supply (source.fetch name supply).2

/-- Where nothing is said about the supply, fetches do nothing to it. -/
theorem Moves.any (source : Source σ) : Moves source (fun _ _ => True) fun _ _ => True where
  refl _ := trivial
  trans _ _ := trivial
  whole _ := trivial
  last _ _ := trivial
  fetch _ _ := ⟨trivial, fun _ _ => trivial⟩

/-- A result that comes of one supply by fetches, and only by ones that succeed if it is a success
itself. -/
def Onward (steps ends : σ → σ → Prop) (first : σ) (result : Except Fault α × State σ) : Prop :=
  ends first result.2.supply ∧ ∀ value, result.1 = .ok value → steps first result.2.supply

/-- The run goes on from its supply by fetches. -/
def Passes (steps ends : σ → σ → Prop) (run : Resolving σ α) : Prop :=
  ∀ before, Onward steps ends before.supply (run before)

section

variable {steps ends : σ → σ → Prop} (moves : Moves source steps ends) {options : Options}

include moves

theorem Moves.unchanged {run : Resolving σ α}
    (same : ∀ before, (run before).2.supply = before.supply) : Passes steps ends run := by
  intro before
  rw [Onward, same before]
  exact ⟨moves.whole (moves.refl _), fun _ _ => moves.refl _⟩

/-- What follows steps that succeeded makes further ones. -/
theorem Moves.after {first : σ} {before : State σ} {run : Resolving σ α}
    (stepped : steps first before.supply) (passes : Passes steps ends run) :
    Onward steps ends first (run before) :=
  ⟨moves.last stepped (passes before).1, fun value same =>
    moves.trans stepped ((passes before).2 value same)⟩

omit moves in
theorem Onward.error {first : σ} {after : State σ} {fault : Fault} (ended : ends first after.supply) :
    Onward steps ends first ((.error fault, after) : Except Fault α × State σ) :=
  ⟨ended, fun _ impossible => by cases impossible⟩

section

variable {name : String} {next : Option Template → Resolving σ α}
  (found : ∀ template, Passes steps ends (next (some template)))
  (missing : ∃ fault, next none = throw fault)

include found missing

/-- A template that is missing ends the run, so that its fetch is the last one. -/
theorem Moves.loadFresh {first : σ} {before : State σ} (unknown : before.table.get? name = none)
    (ended : ends first (source.fetch name before.supply).2)
    (stepped : ∀ template, (source.fetch name before.supply).1 = .ok template →
      steps first (source.fetch name before.supply).2) :
    Onward steps ends first ((load source name >>= next) before) := by
  obtain ⟨fault, throws⟩ := missing
  cases fetched : source.fetch name before.supply with
  | mk fetch supply =>
      rw [fetched] at ended stepped
      rcases fetch with (_ | failure) | template
      · rw [Run.bind_ok (load_missing unknown fetched), throws]
        exact .error ended
      · rw [Run.bind_error (load_fault unknown fetched)]
        exact .error ended
      · rw [Run.bind_ok (load_fetched unknown fetched)]
        exact moves.after (stepped template rfl) (found template)

/-- After its first fetch the run makes only further ones. -/
theorem Moves.loadBegins {before : State σ} (unknown : before.table.get? name = none) :
    Onward steps ends (source.fetch name before.supply).2 ((load source name >>= next) before) :=
  moves.loadFresh found missing unknown (moves.whole (moves.refl _)) fun _ _ => moves.refl _

theorem Moves.loadBind : Passes steps ends (load source name >>= next) := by
  intro before
  cases known : before.table.get? name with
  | some template =>
      rw [Run.bind_ok (load_known known)]
      exact found template before
  | none =>
      obtain ⟨ended, stepped⟩ := moves.fetch name before.supply
      exact moves.loadFresh found missing known ended stepped

end

theorem Moves.throw (fault : Fault) : Passes steps ends (throw fault : Resolving σ α) :=
  moves.unchanged fun _ => rfl

theorem Moves.pure (value : α) : Passes steps ends (pure value : Resolving σ α) :=
  moves.unchanged fun _ => rfl

theorem Moves.onwardBind {run : Resolving σ α} {next : α → Resolving σ β} {start : σ}
    {before : State σ} (onward : Onward steps ends start (run before))
    (continues : ∀ value, Passes steps ends (next value)) :
    Onward steps ends start ((run >>= next) before) := by
  cases ran : run before with
  | mk result between =>
      rw [ran] at onward
      cases result with
      | error fault =>
          rw [Run.bind_error ran]
          exact .error onward.1
      | ok value =>
          rw [Run.bind_ok ran]
          exact moves.after (onward.2 value rfl) (continues value)

theorem Moves.bind {run : Resolving σ α} {next : α → Resolving σ β}
    (first : Passes steps ends run) (continues : ∀ value, Passes steps ends (next value)) :
    Passes steps ends (run >>= next) :=
  fun before => moves.onwardBind (first before) continues

omit moves in
theorem Passes.get {next : State σ → Resolving σ α}
    (continues : ∀ state, Passes steps ends (next state)) : Passes steps ends (get >>= next) :=
  fun before => continues before before

theorem loadReferenced_passes (name : String) (referrer : Option Template)
    (position : Option Position) :
    Passes steps ends (loadReferenced source name referrer position) :=
  moves.loadBind (fun template => moves.pure template) ⟨_, rfl⟩

theorem override_passes (mode : OverrideMode) (child : Template) (parentName : String)
    (parentBody : List Node) :
    Passes steps ends (override mode child parentName parentBody : Resolving σ (List Node)) := by
  unfold override
  dsimp only
  split
  · exact moves.throw _
  · exact moves.unchanged fun _ => rfl

theorem chain_passes (visited : List String) (left : Nat) (template : Template) :
    Passes steps ends (chain source options visited left template) := by
  induction left generalizing visited template with
  | zero =>
      rw [chain]
      split
      · exact Passes.get fun _ => moves.throw _
      · exact moves.throw _
  | succ left ih =>
      rw [chain]
      split
      · exact Passes.get fun _ => moves.throw _
      · split
        · exact moves.pure _
        · exact moves.bind (loadReferenced_passes moves _ _ _) fun parent =>
            moves.bind (ih _ parent) fun above =>
              moves.bind (override_passes moves _ _ _ _) fun body => moves.pure _

theorem gather_passes (turns : Nat) (waiting : List Inclusion) (sources : Dictionary String)
    (includes : Dictionary (List Node)) :
    Passes steps ends (gather source options turns waiting sources includes) := by
  induction turns generalizing waiting sources includes with
  | zero => exact moves.pure _
  | succ turns ih =>
      rw [gather]
      split
      · exact moves.pure _
      · exact Passes.get fun state => moves.bind (loadReferenced_passes moves _ _ _) fun included =>
          moves.bind (chain_passes moves _ _ _) fun resolved => ih _ _ _

theorem template_passes (main : Template) : Passes steps ends (template source options main) := by
  rw [template]
  refine moves.bind (moves.unchanged fun state => state.supply_adding main) fun _ => ?_
  exact moves.bind (chain_passes moves _ _ _) fun above => Passes.get fun state =>
    moves.bind (gather_passes moves _ _ _ _) fun gathered => moves.pure _

/-- A run by name starts with a fetch of this name. -/
theorem named_begins (before : State σ) {name : String} (unknown : before.table.get? name = none) :
    Onward steps ends (source.fetch name before.supply).2 (named source options name before) :=
  moves.loadBegins (fun template => template_passes moves template) ⟨_, rfl⟩ unknown

theorem named_passes (name : String) : Passes steps ends (named source options name) :=
  moves.loadBind (fun template => template_passes moves template) ⟨_, rfl⟩

end

end Templating.Resolver
