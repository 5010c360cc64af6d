import Templating.Proofs.Inheritance.Fetches
import Templating.Proofs.Inheritance.Turns

/-!
A resolver that is run again over another source, one that has at hand what the first run fetched:
it does the same and fetches nothing, until it comes to a template that the first run could not
fetch.
-/

namespace Templating.Resolver

open Node

variable {σ τ α β : Type}

/-- The state with another supply. -/
def State.resupply {τ : Type} (state : State σ) (supply : τ) : State τ :=
  { table := state.table, supply := supply, warnings := state.warnings }

theorem State.resupply_adding {τ : Type} (state : State σ) (supply : τ) (template : Template) :
    (state.resupply supply).adding template = (state.adding template).resupply supply := by
  rw [adding, adding]
  split
  case isTrue known => rw [if_pos (show state.table.has template.name = true from known)]
  case isFalse unknown =>
    rw [if_neg (show ¬ state.table.has template.name = true from unknown)]
    rfl

/-- A source, and another one with a supply that has at hand what the first one gives on the way to
good supplies. -/
structure Resumption (σ τ : Type) where
  source : Source σ
  later : Source τ
  steps : σ → σ → Prop
  ends : σ → σ → Prop
  stepsLater : τ → τ → Prop
  endsLater : τ → τ → Prop
  good : σ → Prop
  left : τ
  moves : Moves source steps ends
  movesLater : Moves later stepsLater endsLater
  back : ∀ {first second}, steps first second → good second → good first
  stocked : ∀ {name supply template after}, source.fetch name supply = (.ok template, after) →
    good after → later.fetch name left = (.ok template, left)

namespace Resumption

variable {resumption : Resumption σ τ}

/-- The state with the supply that has everything at hand. -/
def restart (resumption : Resumption σ τ) (state : State σ) : State τ :=
  state.resupply resumption.left

/-- The result is on the way to good supplies, and so is all that a failure comes of. -/
def Toward (resumption : Resumption σ τ) (result : Except Fault α × State σ) : Prop :=
  resumption.good result.2.supply ∧ ∀ fault, result.1 = .error fault →
    ∀ first, resumption.ends first result.2.supply → resumption.good first

/-- How a run from such a supply and the run that is made again end: alike and without a fetch, or
the first with a fetch that failed, which is what the second starts with. -/
inductive Meets (resumption : Resumption σ τ) (start : σ) :
    Except Fault α × State σ → Except Fault α × State τ → Prop where
  | redone {outcome : Except Fault α} {after : State σ}
      (stepped : resumption.steps start after.supply) :
      Meets resumption start (outcome, after) (outcome, resumption.restart after)
  | stuck {name : String} {failure : FetchFailure} {supply : σ} {fault : Fault} {after : State σ}
      {again : Except Fault α × State τ} (stepped : resumption.steps start supply)
      (failed : resumption.source.fetch name supply = (.error failure, after.supply))
      (onward : Onward resumption.stepsLater resumption.endsLater
        (resumption.later.fetch name resumption.left).2 again) :
      Meets resumption start (.error fault, after) again

/-- The second run resumes the first from wherever it starts. -/
structure Resumes (resumption : Resumption σ τ) (run : Resolving σ α) (again : Resolving τ α) :
    Prop where
  passes : Passes resumption.steps resumption.ends run
  passesAgain : Passes resumption.stepsLater resumption.endsLater again
  meets : ∀ before, resumption.Toward (run before) →
    resumption.Meets before.supply (run before) (again (resumption.restart before))

/-- What a result on the way comes of is on the way as well. -/
theorem Toward.before {result : Except Fault α × State σ} {between : σ}
    (toward : resumption.Toward result)
    (onward : Onward resumption.steps resumption.ends between result) :
    resumption.good between := by
  obtain ⟨outcome, after⟩ := result
  cases outcome with
  | ok value => exact resumption.back (onward.2 value rfl) toward.1
  | error fault => exact toward.2 fault rfl between onward.1

theorem Toward.ok {between : State σ} (value : α)
    (here : resumption.good between.supply) :
    resumption.Toward ((.ok value, between) : Except Fault α × State σ) :=
  ⟨here, fun _ impossible => by cases impossible⟩

/-- A failure is one whatever was to come. -/
theorem Toward.error {after : State σ} {fault : Fault}
    (toward : resumption.Toward ((.error fault, after) : Except Fault β × State σ)) :
    resumption.Toward ((.error fault, after) : Except Fault α × State σ) :=
  ⟨toward.1, fun _ _ => toward.2 fault rfl⟩

theorem Meets.after {first start : σ} {result : Except Fault α × State σ}
    {again : Except Fault α × State τ}
    (meets : resumption.Meets start result again) (stepped : resumption.steps first start) :
    resumption.Meets first result again := by
  cases meets with
  | redone further => exact .redone (resumption.moves.trans stepped further)
  | stuck further failed onward =>
      exact .stuck (resumption.moves.trans stepped further) failed onward

namespace Resumes

theorem unchanged {run : Resolving σ α} {again : Resolving τ α}
    (kept : ∀ before, (run before).2.supply = before.supply)
    (keptAgain : ∀ before, (again before).2.supply = before.supply)
    (same : ∀ before, again (resumption.restart before) =
      ((run before).1, resumption.restart (run before).2)) : resumption.Resumes run again where
  passes := resumption.moves.unchanged kept
  passesAgain := resumption.movesLater.unchanged keptAgain
  meets before _ := by
    rw [same before]
    exact .redone (kept before ▸ resumption.moves.refl _)

theorem bind {run : Resolving σ α} {again : Resolving τ α} {next : α → Resolving σ β}
    {nextAgain : α → Resolving τ β}
    (first : resumption.Resumes run again)
    (continues : ∀ value, resumption.Resumes (next value) (nextAgain value)) :
    resumption.Resumes (run >>= next) (again >>= nextAgain) where
  passes := resumption.moves.bind first.passes fun value => (continues value).passes
  passesAgain := resumption.movesLater.bind first.passesAgain fun value =>
    (continues value).passesAgain
  meets before toward := by
    have meets := first.meets before
    cases ran : run before with
    | mk outcome between =>
        rw [ran] at meets
        cases ranAgain : again (resumption.restart before) with
        | mk outcomeAgain betweenAgain =>
            rw [ranAgain] at meets
            cases outcome with
            | error fault =>
                rw [Run.bind_error ran] at toward ⊢
                cases meets toward.error with
                | redone stepped =>
                    rw [Run.bind_error ranAgain]
                    exact .redone stepped
                | stuck stepped failed onward =>
                    -- Over the other source the run may go on from here.
                    rw [← ranAgain] at onward
                    exact .stuck stepped failed (resumption.movesLater.onwardBind onward
                      fun value => (continues value).passesAgain)
            | ok value =>
                rw [Run.bind_ok ran] at toward ⊢
                have here : resumption.good between.supply :=
                  toward.before ((continues value).passes between)
                cases meets (.ok value here) with
                | redone stepped =>
                    rw [Run.bind_ok ranAgain]
                    exact ((continues value).meets between toward).after stepped

/-- What is read of a state may depend on its supply only in so far as the runs resume each other
there. -/
theorem get {next : State σ → Resolving σ α} {nextAgain : State τ → Resolving τ α}
    (passes : Passes resumption.steps resumption.ends (get >>= next))
    (passesAgain : Passes resumption.stepsLater resumption.endsLater (get >>= nextAgain))
    (continues : ∀ state, resumption.Toward (next state state) →
      resumption.Meets state.supply (next state state)
        (nextAgain (resumption.restart state) (resumption.restart state))) :
    resumption.Resumes (get >>= next) (get >>= nextAgain) :=
  ⟨passes, passesAgain, continues⟩

theorem loadBind {name : String} {next : Option Template → Resolving σ α}
    {nextAgain : Option Template → Resolving τ α}
    (found : ∀ template, resumption.Resumes (next (some template)) (nextAgain (some template)))
    (missing : ∃ fault, next none = throw fault)
    (missingAgain : ∃ fault, nextAgain none = throw fault) :
    resumption.Resumes (load resumption.source name >>= next)
      (load resumption.later name >>= nextAgain) where
  passes := resumption.moves.loadBind (fun template => (found template).passes) missing
  passesAgain :=
    resumption.movesLater.loadBind (fun template => (found template).passesAgain) missingAgain
  meets before toward := by
    cases known : before.table.get? name with
    | some template =>
        have knownAgain : (resumption.restart before).table.get? name = some template := known
        rw [Run.bind_ok (load_known known)] at toward ⊢
        rw [Run.bind_ok (load_known knownAgain)]
        exact (found template).meets before toward
    | none =>
        have unknownAgain : (resumption.restart before).table.get? name = none := known
        have onward : Onward resumption.stepsLater resumption.endsLater
            (resumption.later.fetch name resumption.left).2
            ((load resumption.later name >>= nextAgain) (resumption.restart before)) :=
          resumption.movesLater.loadBegins (fun template => (found template).passesAgain)
            missingAgain unknownAgain
        obtain ⟨fault, throws⟩ := missing
        -- The second run fetches this name in each case, but finds it at hand if the first had it.
        cases fetched : resumption.source.fetch name before.supply with
        | mk fetch supply =>
            rcases fetch with (_ | failure) | template
            · rw [Run.bind_ok (load_missing known fetched), throws]
              exact .stuck (resumption.moves.refl _) fetched onward
            · rw [Run.bind_error (load_fault known fetched)]
              exact .stuck (resumption.moves.refl _) fetched onward
            · rw [Run.bind_ok (load_fetched known fetched)] at toward ⊢
              have here := toward.before ((found template).passes _)
              have again := resumption.stocked fetched here
              rw [Run.bind_ok (load_fetched unknownAgain again)]
              have stepped := (resumption.moves.fetch name before.supply).2 template
              rw [fetched] at stepped
              exact ((found template).meets _ toward).after (stepped rfl)

theorem pure (value : α) : resumption.Resumes (pure value) (pure value) :=
  unchanged (fun _ => rfl) (fun _ => rfl) fun _ => rfl

theorem throw (fault : Fault) :
    resumption.Resumes (throw fault : Resolving σ α) (throw fault) :=
  unchanged (fun _ => rfl) (fun _ => rfl) fun _ => rfl

/-- A run that succeeds is done again without a fetch. -/
theorem done {run : Resolving σ α} {again : Resolving τ α} (resumes : resumption.Resumes run again)
    {before after : State σ} {value : α} (ran : run before = (.ok value, after))
    (kept : resumption.good after.supply) :
    again (resumption.restart before) = (.ok value, resumption.restart after) := by
  have meets := resumes.meets before
  rw [ran] at meets
  have met := meets (.ok value kept)
  generalize again (resumption.restart before) = result at met ⊢
  cases met with
  | redone => rfl

end Resumes

variable (resumption) {options : Options}

theorem loadReferenced_resumes (name : String) (referrer : Option Template)
    (position : Option Position) :
    resumption.Resumes (loadReferenced resumption.source name referrer position)
      (loadReferenced resumption.later name referrer position) :=
  .loadBind (fun template => .pure template) ⟨_, rfl⟩ ⟨_, rfl⟩

theorem override_resumes (mode : OverrideMode) (child : Template) (parentName : String)
    (parentBody : List Node) :
    resumption.Resumes (override mode child parentName parentBody)
      (override mode child parentName parentBody) := by
  unfold override
  dsimp only
  split
  · exact .throw _
  · exact .unchanged (fun _ => rfl) (fun _ => rfl) fun _ => rfl

theorem chain_resumes (visited : List String) (left : Nat) (template : Template) :
    resumption.Resumes (chain resumption.source options visited left template)
      (chain resumption.later options visited left template) := by
  induction left generalizing visited template with
  | zero =>
      unfold chain
      split
      · exact .unchanged (fun _ => rfl) (fun _ => rfl) fun _ => rfl
      · exact .throw _
  | succ left ih =>
      unfold chain
      split
      · exact .unchanged (fun _ => rfl) (fun _ => rfl) fun _ => rfl
      · dsimp only
        cases template.parent? with
        | none => exact .pure _
        | some parentName =>
            exact .bind (resumption.loadReferenced_resumes parentName _ _) fun parent =>
              .bind (ih _ parent) fun above =>
                .bind (resumption.override_resumes _ template parentName above.body) fun _ =>
                  .pure _

theorem gather_resumes (turns : Nat) (waiting : List Inclusion) (sources : Dictionary String)
    (includes : Dictionary (List Node)) :
    resumption.Resumes (gather resumption.source options turns waiting sources includes)
      (gather resumption.later options turns waiting sources includes) := by
  induction turns generalizing waiting sources includes with
  | zero => exact .pure _
  | succ turns ih =>
      have passes : Passes resumption.steps resumption.ends
          (gather resumption.source options (turns + 1) waiting sources includes) :=
        gather_passes resumption.moves _ _ _ _
      have passesAgain : Passes resumption.stepsLater resumption.endsLater
          (gather resumption.later options (turns + 1) waiting sources includes) :=
        gather_passes resumption.movesLater _ _ _ _
      rw [gather] at passes passesAgain ⊢
      rw [gather]
      cases first : waiting.dropWhile fun next => includes.has next.name with
      | nil => exact .pure _
      | cons next rest =>
          rw [first] at passes passesAgain
          exact .get passes passesAgain fun state toward =>
            (Resumes.bind (resumption.loadReferenced_resumes next.name _ _) fun included =>
              .bind (resumption.chain_resumes [] options.depth included) fun above =>
                ih _ _ _).meets state toward

section

variable (counted : resumption.source.Counted) (countedLater : resumption.later.Counted)

include counted countedLater

/-- The loops may take different numbers of turns, since further turns change nothing. -/
theorem template_resumes (options : Options) (main : Template) :
    resumption.Resumes (template resumption.source options main)
      (template resumption.later options main) := by
  rw [template, template]
  refine .bind (.unchanged (fun state => state.supply_adding main)
    (fun state => state.supply_adding main) fun state => ?_) fun _ =>
      .bind (resumption.chain_resumes [] options.depth main) fun above =>
        .get (Passes.get fun state => resumption.moves.bind (gather_passes resumption.moves _ _ _ _)
            fun _ => resumption.moves.pure _)
          (Passes.get fun state => resumption.movesLater.bind
            (gather_passes resumption.movesLater _ _ _ _) fun _ => resumption.movesLater.pure _)
          fun state toward => ?_
  · exact congrArg (Prod.mk (Except.ok PUnit.unit)) (state.resupply_adding resumption.left main)
  · dsimp only at toward ⊢
    rw [Run.bind_congr (gather_enough counted state above.body above.sources (Nat.le_max_left _
      ((resumption.restart state).table.length +
        resumption.later.known (resumption.restart state).supply + 1))).symm] at toward ⊢
    rw [Run.bind_congr (gather_enough countedLater (resumption.restart state) above.body
      above.sources (Nat.le_max_right
        (state.table.length + resumption.source.known state.supply + 1) _)).symm]
    exact (Resumes.bind (resumption.gather_resumes _ _ _ _) fun _ => .pure _).meets state toward

theorem named_resumes (options : Options) (name : String) :
    resumption.Resumes (named resumption.source options name)
      (named resumption.later options name) :=
  .loadBind (fun main => resumption.template_resumes counted countedLater options main) ⟨_, rfl⟩ ⟨_, rfl⟩

end

end Resumption

end Templating.Resolver
