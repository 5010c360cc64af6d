import Templating.Inheritance
import Templating.Proofs.Run

/-!
Resolving with a stack that is changed in place. The names on the way to a template, which a chain is
given, are here a part of the state, pushed before the parents of a template are followed and popped
behind it, also after an error. Both ways come to the same, and every run leaves the stack as it was.
-/

namespace Templating.Resolver

variable {σ α β : Type}

/-- A state of a resolver, and the names of the templates whose parents are being followed. -/
structure Stacked (σ : Type) where
  state : State σ
  stack : List String := []

abbrev Stacking (σ : Type) := ExceptT Fault (StateM (Stacked σ))

namespace Stacking

/-- A step that does not look at the stack. -/
def lift (run : Resolving σ α) : Stacking σ α :=
  ExceptT.mk fun stacked =>
    let (outcome, state) := run.run stacked.state
    (outcome, { stacked with state := state })

/-- Runs with a name more on the stack, from which the last one is taken in any case. -/
def under (name : String) (inside : Stacking σ α) : Stacking σ α :=
  ExceptT.mk fun stacked =>
    let (outcome, after) := inside.run { stacked with stack := stacked.stack ++ [name] }
    (outcome, { after with stack := after.stack.dropLast })

/-- Follows the parents of a template. The stack alone tells when a chain is too long; the number
bounds the recursion and is at least what the stack leaves of the limit. -/
def chain (source : Source σ) (options : Options) : Nat → Template → Stacking σ Chain
  | left, template => do
    let stacked ← get
    if stacked.stack.contains template.name then
      throw (cycleFault stacked.state.table stacked.stack template)
    else if options.depth ≤ stacked.stack.length then
      throw (lengthFault options.depth stacked.stack template)
    else match left with
      | 0 => throw (lengthFault options.depth stacked.stack template)
      | left + 1 =>
        under template.name <|
          match template.parent? with
          | none =>
            return { body := template.body, sources := [(template.name, template.source)],
                     names := [template.name] }
          | some parentName => do
            let parent ← lift
              (loadReferenced source parentName (some template) template.parentPosition)
            let above ← chain source options left parent
            let body ← lift (override options.override template parentName above.body)
            return { body := body, sources := above.sources.set template.name template.source,
                     names := template.name :: above.names }

def gather (source : Source σ) (options : Options) :
    Nat → List Node.Inclusion → Dictionary String → Dictionary (List Node) →
      Stacking σ (Dictionary String × Dictionary (List Node))
  | 0, _, sources, includes => return (sources, includes)
  | turns + 1, waiting, sources, includes => do
    match waiting.dropWhile fun next => includes.has next.name with
    | [] => return (sources, includes)
    | next :: rest =>
      let referrer := (← get).state.table.get? ((next.position.map (·.template)).getD "")
      let included ← lift (loadReferenced source next.name referrer next.position)
      let resolved ← chain source options options.depth included
      gather source options turns (rest ++ Node.bodyInclusions resolved.body)
        (sources.update resolved.sources) (includes.set next.name resolved.body)

def template (source : Source σ) (options : Options) (template : Template) :
    Stacking σ Resolved := do
  lift <| modify fun state =>
    if state.table.has template.name then state
    else { state with table := state.table.set template.name template }
  let main ← chain source options options.depth template
  let state := (← get).state
  let turns := state.table.length + source.known state.supply + 1
  let (sources, includes) ←
    gather source options turns (Node.bodyInclusions main.body) main.sources []
  return { name := template.name, body := main.body, sources := sources, includes := includes,
           chain := main.names }

def named (source : Source σ) (options : Options) (name : String) : Stacking σ Resolved := do
  match ← lift (load source name) with
  | some found => template source options found
  | none => throw (.of (.inheritance (.missing name)) none none)

end Stacking

/-- With this stack the run ends as the one without, and leaves the stack as it is, also in failure. -/
def Unwinds (stack : List String) (run : Stacking σ α) (plain : Resolving σ α) : Prop :=
  ∀ state, run ⟨state, stack⟩ = ((plain state).1, ⟨(plain state).2, stack⟩)

namespace Unwinds

variable {stack : List String} {run : Stacking σ α} {plain : Resolving σ α}
  {next : α → Stacking σ β} {plainNext : α → Resolving σ β}

theorem pure (value : α) : Unwinds (σ := σ) stack (pure value) (pure value) :=
  fun _ => rfl

theorem throw (fault : Fault) : Unwinds (σ := σ) stack (throw fault : Stacking σ α) (throw fault) :=
  fun _ => rfl

theorem lift (plain : Resolving σ α) : Unwinds stack (Stacking.lift plain) plain :=
  fun _ => rfl

theorem bind (unwinds : Unwinds stack run plain)
    (continues : ∀ value, Unwinds stack (next value) (plainNext value)) :
    Unwinds stack (run >>= next) (plain >>= plainNext) := by
  intro state
  have first := unwinds state
  cases ran : plain state with
  | mk outcome between =>
      rw [ran] at first
      cases outcome with
      | ok value =>
          rw [Run.bind_ok first, Run.bind_ok ran]
          exact continues value between
      | error fault => rw [Run.bind_error first, Run.bind_error ran]

/-- What is read of the state is the same in both. -/
theorem get {next : Stacked σ → Stacking σ β} {plainNext : State σ → Resolving σ β}
    (continues : ∀ state, Unwinds stack (next ⟨state, stack⟩) (plainNext state)) :
    Unwinds stack (get >>= next) (get >>= plainNext) :=
  fun state => continues state state

theorem under {name : String} (unwinds : Unwinds (stack ++ [name]) run plain) :
    Unwinds stack (Stacking.under name run) plain := by
  intro state
  have inside := unwinds state
  rw [Stacking.under]
  simp only [ExceptT.run, ExceptT.mk, inside, List.dropLast_concat]

end Unwinds

section

variable (source : Source σ) (options : Options)

/-- By induction on the templates that may follow, of which the stack leaves as many. -/
theorem chain_unwinds {stack : List String} {left : Nat} (room : stack.length + left = options.depth)
    (template : Template) :
    Unwinds stack (Stacking.chain source options left template)
      (chain source options stack left template) := by
  induction left generalizing stack template with
  | zero =>
      intro state
      rw [Stacking.chain.eq_def, chain.eq_def]
      dsimp only
      rw [Run.get_bind]
      by_cases again : stack.contains template.name
      · rw [if_pos again, if_pos again]
        rfl
      · have full : options.depth ≤ stack.length := Nat.le_of_eq room.symm
        rw [if_neg again, if_neg again, if_pos full]
        rfl
  | succ left ih =>
      intro state
      rw [Stacking.chain.eq_def, chain.eq_def]
      dsimp only
      rw [Run.get_bind]
      by_cases again : stack.contains template.name
      · rw [if_pos again, if_pos again]
        rfl
      · have free : ¬ options.depth ≤ stack.length := by omega
        rw [if_neg again, if_neg again, if_neg free]
        refine Unwinds.under ?_ state
        cases template.parent? with
        | none => exact .pure _
        | some parentName =>
            have inside : (stack ++ [template.name]).length + left = options.depth := by
              rw [List.length_append, List.length_singleton]
              omega
            refine .bind (.lift _) fun parent => .bind (ih inside parent) fun above => ?_
            exact .bind (.lift _) fun body => .pure _

theorem wholeChain_unwinds (template : Template) :
    Unwinds [] (Stacking.chain source options options.depth template)
      (chain source options [] options.depth template) :=
  chain_unwinds source options (Nat.zero_add _) template

theorem gather_unwinds (turns : Nat) (waiting : List Node.Inclusion) (sources : Dictionary String)
    (includes : Dictionary (List Node)) :
    Unwinds [] (Stacking.gather source options turns waiting sources includes)
      (gather source options turns waiting sources includes) := by
  induction turns generalizing waiting sources includes with
  | zero => exact .pure _
  | succ turns ih =>
      rw [Stacking.gather, gather]
      cases waiting.dropWhile fun next => includes.has next.name with
      | nil => exact .pure _
      | cons next rest =>
          refine .get fun state => .bind (.lift _) fun included => ?_
          exact .bind (wholeChain_unwinds source options included) fun resolved => ih _ _ _

theorem template_unwinds (main : Template) :
    Unwinds [] (Stacking.template source options main) (template source options main) := by
  refine .bind (.lift _) fun _ => .bind (wholeChain_unwinds source options main) fun above => ?_
  exact .get fun state => .bind (gather_unwinds source options _ _ _ _) fun gathered => .pure _

/-- A template by name resolves as it does without a stack, and the stack is empty again behind it,
also where an error unwinds several chains. -/
theorem named_unwinds (name : String) :
    Unwinds [] (Stacking.named source options name) (named source options name) := by
  refine .bind (.lift _) fun found => ?_
  cases found with
  | none => exact .throw _
  | some main => exact template_unwinds source options main

end

end Templating.Resolver
