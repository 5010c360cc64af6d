import Mathlib.Tactic.Tauto
import Templating.Proofs.Dictionary
import Templating.Proofs.Every
import Templating.Proofs.Run
import Templating.Proofs.Shells

/-!
Resolving adds no parts: what a template is put together to has the shells of nodes of the templates
at hand and no others, so that what holds of all texts and expressions of these holds of all texts
and expressions of it.
-/

namespace Templating

namespace Node

section

variable {holds : Node → Prop}

theorem outermostBranches_eq_foldl (found : Dictionary Node) (branches : List Branch) :
    outermostBranches found branches = (branches.map Branch.body).foldl outermostBody found := by
  induction branches generalizing found with
  | nil => rfl
  | cons branch branches ih =>
      obtain ⟨test, body, position⟩ := branch
      exact ih _

theorem outermostOption_eq_foldl (found : Dictionary Node) (otherwise : Option (List Node)) :
    outermostOption found otherwise = otherwise.toList.foldl outermostBody found := by
  cases otherwise <;> rfl

/-- A block is outermost itself; in any other node the bodies are searched. -/
theorem outermost_cases (found : Dictionary Node) (node : Node) :
    (∃ name, outermost found node = found.set name node) ∨
      outermost found node = node.bodies.foldl outermostBody found := by
  cases node with
  | block name body position => exact .inl ⟨name, rfl⟩
  | condition test body branches otherwise position =>
      right
      rw [outermost, bodies, List.foldl_cons, List.foldl_append, outermostBranches_eq_foldl,
        outermostOption_eq_foldl]
  | loop targets iterable body otherwise position =>
      right
      rw [outermost, bodies, List.foldl_cons, outermostOption_eq_foldl]
  | text | output | binding | parent | inclusion => exact .inr rfl

/-- The outermost blocks of a body are nodes of the body. -/
theorem outermostBody_throughout : ∀ (body : List Node) {found : Dictionary Node},
    BodyThroughout holds body → found.Each (Throughout holds) →
      (outermostBody found body).Each (Throughout holds)
  | [], _, _, each => each
  | node :: rest, found, all, each => by
    obtain ⟨here, others⟩ := bodyThroughout_cons.mp all
    refine outermostBody_throughout rest others ?_
    obtain ⟨name, set⟩ | search := outermost_cases found node
    · rw [set]
      exact each.set name here
    · have step (inner : List Node) (part : inner ∈ node.bodies) {before : Dictionary Node}
          (kept : before.Each (Throughout holds)) :
          (outermostBody before inner).Each (Throughout holds) :=
        have smaller := sizeOf_lt_of_mem_bodies (List.mem_cons_self (a := node) (l := rest)) part
        outermostBody_throughout inner ((throughout_iff.mp here).2 inner part) kept
      rw [search]
      exact List.foldlRecOn node.bodies outermostBody each fun _ kept inner part =>
        step inner part kept
termination_by body => sizeOf body
decreasing_by
  · exact smaller
  · rw [List.cons.sizeOf_spec]
    omega

variable {overrides : Dictionary Node}

theorem substituteBody_eq_map (overrides : Dictionary Node) (body : List Node) :
    substituteBody overrides body = body.map (substitute overrides) := by
  induction body with
  | nil => rfl
  | cons node body ih => rw [substituteBody, ih, List.map_cons]

theorem substituteBranches_eq_map (overrides : Dictionary Node) (branches : List Branch) :
    substituteBranches overrides branches = branches.map (substituteBranch overrides) := by
  induction branches with
  | nil => rfl
  | cons branch branches ih => rw [substituteBranches, ih, List.map_cons]

@[simp] theorem substituteBranch_body (overrides : Dictionary Node) (branch : Branch) :
    (substituteBranch overrides branch).body = substituteBody overrides branch.body := by
  cases branch
  rfl

@[simp] theorem substituteBranch_shell (overrides : Dictionary Node) (branch : Branch) :
    (substituteBranch overrides branch).shell = branch.shell := by
  cases branch
  rfl

/-- A node is replaced, or only the bodies in it change. -/
theorem substitute_cases (overrides : Dictionary Node) (node : Node) :
    (∃ name, overrides.get? name = some (node.substitute overrides)) ∨
      (node.substitute overrides).shell = node.shell ∧
        (node.substitute overrides).bodies = node.bodies.map (substituteBody overrides) := by
  cases node with
  | block name body position =>
      rw [substitute]
      cases found : overrides.get? name with
      | some replacement => exact .inl ⟨name, found⟩
      | none => exact .inr ⟨rfl, rfl⟩
  | condition test body branches otherwise position =>
      right
      rw [substitute, substituteBranches_eq_map]
      cases otherwise <;> simp [shell, bodies, substituteOption, Function.comp_def]
  | loop targets iterable body otherwise position =>
      right
      rw [substitute]
      cases otherwise <;> simp [shell, bodies, substituteOption]
  | text | output | binding | parent | inclusion => exact .inr ⟨rfl, rfl⟩

theorem substituteBody_throughout (each : overrides.Each (Throughout holds)) (body : List Node)
    (all : BodyThroughout holds body) : BodyThroughout holds (substituteBody overrides body) := by
  rw [substituteBody_eq_map, bodyThroughout_iff, List.forall_mem_map]
  intro node member
  have here := bodyThroughout_iff.mp all node member
  obtain ⟨name, replaced⟩ | ⟨same, inner⟩ := substitute_cases overrides node
  · exact each.get? replaced
  · rw [throughout_iff, same, inner, List.forall_mem_map]
    refine ⟨(throughout_iff.mp here).1, fun content part => ?_⟩
    have smaller := sizeOf_lt_of_mem_bodies member part
    exact substituteBody_throughout each content ((throughout_iff.mp here).2 content part)
termination_by sizeOf body

end

section

variable {texts : String → Prop} {exprs : Expr → Prop}

theorem branchesEvery_iff_shells {branches : List Branch} :
    BranchesEvery texts exprs branches ↔
      BranchesEvery texts exprs (branches.map Branch.shell) ∧
        ∀ branch ∈ branches, BodyEvery texts exprs branch.body := by
  rw [branchesEvery_iff, branchesEvery_iff, List.forall_mem_map, ← forall₂_and]
  refine forall₂_congr fun branch _ => ?_
  obtain ⟨test, body, position⟩ := branch
  simp [BranchEvery, Branch.shell, Branch.body, BodyEvery]

/-- What holds of all parts of a node holds of its shell and of the bodies in it. -/
theorem every_iff_shell {node : Node} :
    node.Every texts exprs ↔
      node.shell.Every texts exprs ∧ ∀ body ∈ node.bodies, BodyEvery texts exprs body := by
  cases node with
  | condition test body branches otherwise position =>
      rw [Every, branchesEvery_iff_shells]
      cases otherwise <;>
        simp [shell, Every, bodies, BodyEvery, OptionEvery, or_imp, forall_and] <;> tauto
  | loop targets iterable body otherwise position =>
      cases otherwise <;> simp [shell, Every, bodies, BodyEvery, OptionEvery]
  | block name body position => simp [shell, Every, bodies, BodyEvery]
  | text | output | binding | parent | inclusion => simp [shell, bodies]

theorem bodyEvery_iff_throughout (body : List Node) :
    BodyEvery texts exprs body ↔ BodyThroughout (Every texts exprs) body := by
  rw [bodyEvery_iff, bodyThroughout_iff]
  refine forall₂_congr fun node member => ?_
  rw [every_iff_shell, throughout_iff]
  refine and_congr_right fun _ => forall₂_congr fun inner part => ?_
  have smaller := sizeOf_lt_of_mem_bodies member part
  exact bodyEvery_iff_throughout inner
termination_by sizeOf body

end

end Node

/-- The template's texts and expressions satisfy a condition each. -/
def Template.Every (texts : String → Prop) (exprs : Expr → Prop) (template : Template) : Prop :=
  Node.BodyEvery texts exprs template.body

/-- Every shell in the template satisfies the condition. -/
def Template.Throughout (holds : Node → Prop) (template : Template) : Prop :=
  Node.BodyThroughout holds template.body

theorem Template.every_eq_throughout (texts : String → Prop) (exprs : Expr → Prop) :
    Template.Every texts exprs = Template.Throughout (Node.Every texts exprs) :=
  funext fun template => propext (Node.bodyEvery_iff_throughout template.body)

/-- The texts and expressions of a resolved template and of all that it includes satisfy a condition
each. -/
structure Resolved.Every (texts : String → Prop) (exprs : Expr → Prop) (resolved : Resolved) :
    Prop where
  body : Node.BodyEvery texts exprs resolved.body
  includes : resolved.includes.Each (Node.BodyEvery texts exprs)

/-- Every shell in a resolved template and in all that it includes satisfies the condition. -/
structure Resolved.Throughout (holds : Node → Prop) (resolved : Resolved) : Prop where
  body : Node.BodyThroughout holds resolved.body
  includes : resolved.includes.Each (Node.BodyThroughout holds)

theorem Resolved.every_eq_throughout (texts : String → Prop) (exprs : Expr → Prop) :
    Resolved.Every texts exprs = Resolved.Throughout (Node.Every texts exprs) := by
  have bodies : Node.BodyEvery texts exprs = Node.BodyThroughout (Node.Every texts exprs) :=
    funext fun body => propext (Node.bodyEvery_iff_throughout body)
  funext resolved
  refine propext ⟨fun every => ?_, fun all => ?_⟩
  · exact ⟨bodies ▸ every.body, bodies ▸ every.includes⟩
  · exact ⟨bodies ▸ all.body, bodies ▸ all.includes⟩

/-- Every template that can be fetched satisfies the condition. -/
def Source.Supplies {σ : Type} (source : Source σ) (holds : Template → Prop) : Prop :=
  ∀ ⦃name : String⦄ ⦃supply after : σ⦄ ⦃template : Template⦄,
    source.fetch name supply = (.ok template, after) → holds template

namespace Resolver

variable {σ : Type} {source : Source σ} {holds : Node → Prop}

/-- Every template at hand satisfies the condition. -/
def State.Each (holds : Template → Prop) (state : State σ) : Prop :=
  state.table.Each holds

theorem load_known {state : State σ} {name : String} {template : Template}
    (known : state.table.get? name = some template) :
    load source name state = (.ok (some template), state) := by
  rw [load, Run.get_bind, known]
  rfl

theorem load_fetched {state : State σ} {name : String} {template : Template} {supply : σ}
    (unknown : state.table.get? name = none)
    (fetched : source.fetch name state.supply = (.ok template, supply)) :
    load source name state = (.ok (some template),
      { state with table := state.table.set name template, supply := supply }) := by
  rw [load, Run.get_bind, unknown]
  simp only [fetched]
  rfl

theorem load_missing {state : State σ} {name : String} {supply : σ}
    (unknown : state.table.get? name = none)
    (fetched : source.fetch name state.supply = (.error .notFound, supply)) :
    load source name state = (.ok none, { state with supply := supply }) := by
  rw [load, Run.get_bind, unknown]
  simp only [fetched]
  rfl

theorem load_fault {state : State σ} {name : String} {fault : Fault} {supply : σ}
    (unknown : state.table.get? name = none)
    (fetched : source.fetch name state.supply = (.error (.fault fault), supply)) :
    load source name state = (.error fault, { state with supply := supply }) := by
  rw [load, Run.get_bind, unknown]
  simp only [fetched]
  rfl

section

variable {holds : Template → Prop} (supplies : source.Supplies holds)

include supplies

theorem load_maintains (name : String) :
    Maintains (State.Each holds) (load source name) fun found =>
      ∀ template ∈ found, holds template := by
  intro state found after each run
  cases known : state.table.get? name with
  | some template =>
      rw [load_known known] at run
      cases run
      refine ⟨each, ?_⟩
      intro other same
      cases same
      exact each.get? known
  | none =>
      cases fetched : source.fetch name state.supply with
      | mk outcome supply =>
          cases outcome with
          | ok template =>
              rw [load_fetched known fetched] at run
              cases run
              refine ⟨each.set name (supplies fetched), ?_⟩
              intro other same
              cases same
              exact supplies fetched
          | error failure =>
              cases failure with
              | notFound =>
                  rw [load_missing known fetched] at run
                  cases run
                  refine ⟨each, ?_⟩
                  intro other same
                  cases same
              | fault fault =>
                  rw [load_fault known fetched] at run
                  cases run

theorem loadReferenced_maintains (name : String) (referrer : Option Template)
    (position : Option Position) :
    Maintains (State.Each holds) (loadReferenced source name referrer position) holds := by
  rw [loadReferenced]
  apply Maintains.bind (load_maintains supplies name)
  intro found good
  cases found with
  | some template => exact Maintains.pure (good template rfl)
  | none => exact Maintains.throw

end

/-- A child's blocks in the body of its parent, and those that the parent lacks behind it. -/
theorem overridden_throughout {child parentBody : List Node}
    (all : Node.BodyThroughout holds child) (allParent : Node.BodyThroughout holds parentBody) :
    Node.BodyThroughout holds (Node.substituteBody (Node.outermostBody [] child) parentBody ++
      (unknownBlocks (Node.outermostBody [] child) parentBody).map (·.2)) := by
  have blocks : (Node.outermostBody [] child).Each (Node.Throughout holds) :=
    Node.outermostBody_throughout child all .nil
  rw [Node.bodyThroughout_append]
  refine ⟨Node.substituteBody_throughout blocks parentBody allParent, ?_⟩
  rw [Node.bodyThroughout_iff, List.forall_mem_map]
  intro entry member
  exact blocks entry (List.mem_filter.mp member).1

theorem override_maintains (mode : OverrideMode) {child : Template} (parentName : String)
    {parentBody : List Node} (all : child.Throughout holds)
    (allParent : Node.BodyThroughout holds parentBody) {kept : Template → Prop} :
    Maintains (State.Each (σ := σ) kept) (override mode child parentName parentBody)
      (Node.BodyThroughout holds) := by
  have result := overridden_throughout all allParent
  unfold override
  dsimp only
  split
  · exact Maintains.throw
  · exact Maintains.modify (fun _ each => each) (Maintains.pure result)

section

variable (supplies : source.Supplies (Template.Throughout holds)) (options : Options)

include supplies

theorem chain_maintains (visited : List String) (left : Nat) {template : Template}
    (all : template.Throughout holds) :
    Maintains (State.Each (Template.Throughout holds)) (chain source options visited left template)
      fun above => Node.BodyThroughout holds above.body := by
  induction left generalizing visited template with
  | zero =>
      rw [chain]
      split
      · exact Maintains.get fun _ _ => Maintains.throw
      · exact Maintains.throw
  | succ left ih =>
      rw [chain]
      split
      · exact Maintains.get fun _ _ => Maintains.throw
      · split
        · exact Maintains.pure all
        · apply Maintains.bind (loadReferenced_maintains supplies _ _ _)
          intro parent allParent
          apply Maintains.bind (ih _ allParent)
          intro above allAbove
          apply Maintains.bind (override_maintains _ _ all allAbove)
          intro body allBody
          exact Maintains.pure allBody

theorem gather_maintains (turns : Nat) (waiting : List Node.Inclusion)
    (sources : Dictionary String) {includes : Dictionary (List Node)}
    (each : includes.Each (Node.BodyThroughout holds)) :
    Maintains (State.Each (Template.Throughout holds))
      (gather source options turns waiting sources includes)
      fun gathered => gathered.2.Each (Node.BodyThroughout holds) := by
  induction turns generalizing waiting sources includes with
  | zero => exact Maintains.pure each
  | succ turns ih =>
      rw [gather]
      split
      · exact Maintains.pure each
      case h_2 next rest _ =>
        apply Maintains.get
        intro state _
        apply Maintains.bind (loadReferenced_maintains supplies _ _ _)
        intro included all
        apply Maintains.bind (chain_maintains supplies options _ _ all)
        intro resolved allBody
        exact ih _ _ (each.set next.name allBody)

theorem template_throughout {main : Template} (all : main.Throughout holds) :
    Maintains (State.Each (Template.Throughout holds)) (template source options main)
      (Resolved.Throughout holds) := by
  rw [template]
  have added : ∀ state : State σ, State.Each (Template.Throughout holds) state →
      State.Each (Template.Throughout holds) (if state.table.has main.name then state
        else { state with table := state.table.set main.name main }) := by
    intro state each
    split
    · exact each
    · exact each.set main.name all
  apply Maintains.modify added
  apply Maintains.bind (chain_maintains supplies options _ _ all)
  intro above allBody
  apply Maintains.get
  intro state _
  apply Maintains.bind (gather_maintains supplies options _ _ _ .nil)
  intro gathered each
  exact Maintains.pure ⟨allBody, each⟩

theorem named_throughout (name : String) :
    Maintains (State.Each (Template.Throughout holds)) (named source options name)
      (Resolved.Throughout holds) := by
  rw [named]
  apply Maintains.bind (load_maintains supplies name)
  intro found all
  cases found with
  | some main => exact template_throughout supplies options (all main rfl)
  | none => exact Maintains.throw

end

section

variable {texts : String → Prop} {exprs : Expr → Prop}
  (supplies : source.Supplies (Template.Every texts exprs)) (options : Options)

include supplies

/-- Resolving keeps what holds of all parts of the templates. -/
theorem template_maintains {main : Template} (every : main.Every texts exprs) :
    Maintains (State.Each (Template.Every texts exprs)) (template source options main)
      (Resolved.Every texts exprs) := by
  rw [Template.every_eq_throughout] at supplies every ⊢
  rw [Resolved.every_eq_throughout]
  exact template_throughout supplies options every

theorem named_maintains (name : String) :
    Maintains (State.Each (Template.Every texts exprs)) (named source options name)
      (Resolved.Every texts exprs) := by
  rw [Template.every_eq_throughout] at supplies ⊢
  rw [Resolved.every_eq_throughout]
  exact named_throughout supplies options name

end

end Resolver

end Templating
