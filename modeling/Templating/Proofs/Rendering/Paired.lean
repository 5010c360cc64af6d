import Templating.Proofs.Limits.Curtails
import Templating.Proofs.Rendering.Scopes
import Templating.Proofs.Rendering.Mentions

/-!
Two renderings of one template, from scopes that agree on the variables it mentions and under
settings that may differ in what they refuse: the first one ends as the second one, unless it is cut
off by a failure of its own kind.
-/

namespace Templating

/-- Under the first settings everything is rendered as under the second ones, or refused in a way of
its own. -/
structure Settings.Paired (cut : Failure → Prop) (first second : Settings) : Prop where
  filters : first.filters = second.filters
  escape : first.options.escape = second.options.escape
  missing : ∀ name path position,
    Outcome.Curtails cut (Expr.missing first.options.undefined name path position)
      (Expr.missing second.options.undefined name path position)
  depth : first.options.depth = second.options.depth ∨
    first.options.depth ≤ second.options.depth ∧
      ∀ position, cut (.blamed (.tooDeep first.options.depth) position)

namespace Expr

open Outcome (Curtails)

variable {cut : Failure → Prop} {names : String → Prop} {first second : Settings}
  {left right : Scope}

section

set_option linter.unusedSectionVars false

variable (paired : first.Paired cut second) (agrees : Scope.Agrees names left right)

include paired agrees

theorem evalReference_paired {name : String} (known : names name) (path : List Segment)
    (position : Option Position) :
    Curtails cut (evalReference first.options.undefined left name path position)
      (evalReference second.options.undefined right name path position) := by
  unfold evalReference
  rw [agrees name known]
  split
  · exact paired.missing name [] position
  · split
    · exact .refl _
    · exact paired.missing name _ position

mutual

/-- An expression reads of the scope only what its variables mean. -/
theorem eval_paired : ∀ expr : Expr, (∀ name ∈ expr.mentions, names name) →
    Curtails cut (eval first left expr) (eval second right expr)
  | .literal _ _, _ => .refl _
  | .reference name path position, known => by
    rw [eval, eval]
    exact evalReference_paired paired agrees (known name List.mem_cons_self) path position
  | .list items _, known => by
    rw [eval, eval]
    exact (evalAll_paired items known).bind fun _ => .refl _
  | .binary operator one other position, known => by
    rw [mentions, List.forall_mem_append] at known
    have start := eval_paired one known.1
    have further := eval_paired other known.2
    cases operator with
    | and =>
        rw [eval, eval]
        refine start.bind fun value => ?_
        split
        · exact further
        · exact .refl _
    | or =>
        rw [eval, eval]
        refine start.bind fun value => ?_
        split
        · exact .refl _
        · exact further
    | equal | unequal | member | compare | arithmetic | unknown =>
        rw [eval, eval]
        · exact start.bind fun _ => further.bind fun _ => .refl _
        all_goals
          intro same
          cases same
  | .unary operator operand position, known => by
    rw [eval, eval]
    exact (eval_paired operand known).bind fun _ => .refl _
  | .filter base name arguments named position, known => by
    rw [mentions, List.forall_mem_append, List.forall_mem_append] at known
    rw [eval, eval, paired.filters]
    cases second.filters.find? name with
    | none => exact .refl _
    | some found =>
        exact (eval_paired base known.1.1).bind fun _ =>
          (evalAll_paired arguments known.1.2).bind fun _ =>
            (evalNamed_paired named known.2).bind fun _ => .refl _

theorem evalAll_paired : ∀ items : List Expr, (∀ name ∈ allMentions items, names name) →
    Curtails cut (evalAll first left items) (evalAll second right items)
  | [], _ => .refl _
  | item :: items, known => by
    rw [allMentions, List.forall_mem_append] at known
    rw [evalAll, evalAll]
    exact (eval_paired item known.1).bind fun _ =>
      (evalAll_paired items known.2).bind fun _ => .refl _

theorem evalNamed_paired : ∀ named : List (String × Expr),
    (∀ name ∈ namedMentions named, names name) →
    Curtails cut (evalNamed first left named) (evalNamed second right named)
  | [], _ => .refl _
  | (_, value) :: rest, known => by
    rw [namedMentions, List.forall_mem_append] at known
    rw [evalNamed, evalNamed]
    exact (eval_paired value known.1).bind fun _ =>
      (evalNamed_paired rest known.2).bind fun _ => .refl _

end

end

end Expr

/-- The canvases hold the same output, and their scopes agree on these names. -/
structure Canvas.Agrees (names : String → Prop) (left right : Canvas) : Prop where
  output : left.output = right.output
  scope : left.scope.Agrees names right.scope

namespace Rendering

variable {α β : Type} {cut : Failure → Prop} {names : String → Prop}

/-- From canvases that agree the first run ends as the second one, and they agree again, unless it
is cut off. -/
def Paired (cut : Failure → Prop) (names : String → Prop) (first second : Rendering α) : Prop :=
  ∀ ⦃left right : Canvas⦄, left.Agrees names right →
    (∃ failure after, first left = (.error failure, after) ∧ cut failure) ∨
      ∃ outcome after other, first left = (outcome, after) ∧ second right = (outcome, other) ∧
        after.Agrees names other

namespace Paired

variable {first second : Rendering α} {next other : α → Rendering β}

theorem pure (value : α) : Paired cut names (pure value : Rendering α) (pure value) :=
  fun _ _ agrees => .inr ⟨_, _, _, rfl, rfl, agrees⟩

theorem throw (failure : Failure) : Paired cut names (throw failure : Rendering α) (throw failure) :=
  fun _ _ agrees => .inr ⟨_, _, _, rfl, rfl, agrees⟩

theorem cutOff {failure : Failure} (allowed : cut failure) :
    Paired cut names (MonadExcept.throw failure : Rendering α) second :=
  fun left _ _ => .inl ⟨failure, left, rfl, allowed⟩

theorem bind (paired : Paired cut names first second)
    (continues : ∀ value, Paired cut names (next value) (other value)) :
    Paired cut names (first >>= next) (second >>= other) := by
  intro left right agrees
  rcases paired agrees with
    ⟨failure, after, fails, allowed⟩ | ⟨outcome, after, behind, one, another, agreesAfter⟩
  · exact .inl ⟨failure, after, Run.bind_error fails, allowed⟩
  · cases outcome with
    | ok value =>
        rw [Run.bind_ok one, Run.bind_ok another]
        exact continues value agreesAfter
    | error failure =>
        exact .inr ⟨_, after, behind, Run.bind_error one, Run.bind_error another, agreesAfter⟩

theorem ite {condition : Prop} [Decidable condition] {third fourth : Rendering α}
    (yes : Paired cut names first second) (no : Paired cut names third fourth) :
    Paired cut names (if condition then first else third) (if condition then second else fourth) := by
  split
  · exact yes
  · exact no

theorem forM {action further : α → Rendering PUnit}
    (each : ∀ item, Paired cut names (action item) (further item)) (items : List α) :
    Paired cut names (items.forM action) (items.forM further) := by
  induction items with
  | nil => exact pure _
  | cons item items ih => exact (each item).bind fun _ => ih

theorem write (text : String) : Paired cut names (write text) (write text) :=
  fun _ _ agrees => .inr ⟨_, _, _, rfl, rfl, congrArg (· ++ text) agrees.output, agrees.scope⟩

theorem set (name : String) (value : Value) :
    Paired cut names
      (modify fun canvas => { canvas with scope := canvas.scope.set name value } : Rendering PUnit)
      (modify fun canvas => { canvas with scope := canvas.scope.set name value }) :=
  fun _ _ agrees => .inr ⟨_, _, _, rfl, rfl, agrees.output, agrees.scope.set name value⟩

/-- What is only read from the scopes. -/
theorem ofScope {compute further : Scope → Except Failure α}
    (curtails : ∀ left right : Scope, left.Agrees names right →
      Outcome.Curtails cut (compute left) (further right)) :
    Paired cut names (ExceptT.mk fun canvas => (compute canvas.scope, canvas) : Rendering α)
      (ExceptT.mk fun canvas => (further canvas.scope, canvas)) := by
  intro left right agrees
  rcases curtails left.scope right.scope agrees.scope with ⟨failure, fails, allowed⟩ | same
  · exact .inl ⟨failure, left, congrArg (·, left) fails, allowed⟩
  · exact .inr ⟨_, left, right, congrArg (·, left) same, rfl, agrees⟩

section

variable {inside further : Rendering Unit} (paired : Paired cut names inside further) (frame : Frame)

include paired

/-- Both scopes are what they were before, so that they agree again. -/
theorem within {bound others : List String} {allowed permitted : Failure → Prop}
    (confined : Confined bound allowed inside) (confinedFurther : Confined others permitted further) :
    Paired cut names (within frame inside) (within frame further) := by
  intro left right agrees
  have pushed : Canvas.Agrees names { left with scope := left.scope.push frame }
      { right with scope := right.scope.push frame } := ⟨agrees.output, agrees.scope.push frame⟩
  rcases paired pushed with
    ⟨failure, after, fails, cutOff⟩ | ⟨outcome, after, behind, one, another, agreesAfter⟩
  · exact .inl ⟨failure, _, confined.within_run fails, cutOff⟩
  · exact .inr ⟨outcome, _, _, confined.within_run one, confinedFurther.within_run another,
      agreesAfter.output, agrees.scope⟩

theorem apart : Paired cut names (apart frame inside) (apart frame further) := by
  intro left right agrees
  have alone : Canvas.Agrees names { left with scope := .ofFrame frame }
      { right with scope := .ofFrame frame } := ⟨agrees.output, .refl names _⟩
  rcases paired alone with
    ⟨failure, after, fails, cutOff⟩ | ⟨outcome, after, behind, one, another, agreesAfter⟩
  · exact .inl ⟨failure, _, apart_run fails, cutOff⟩
  · exact .inr ⟨outcome, _, _, apart_run one, apart_run another, agreesAfter.output, agrees.scope⟩

end

end Paired

section

variable {first second : Settings}

theorem evaluate_paired (paired : first.Paired cut second) {expr : Expr}
    (known : ∀ name ∈ expr.mentions, names name) :
    Paired cut names (evaluate first expr) (evaluate second expr) :=
  .ofScope fun _ _ agrees => expr.eval_paired paired agrees known

/-- Inclusions are rendered in pairs too, and leave the scope as it is in either run. -/
structure Insertions (cut : Failure → Prop) (names : String → Prop) (first second : Settings)
    (insert other : Insertion) : Prop where
  settings : first.Paired cut second
  pairs : ∀ name bindings position,
    (∀ used ∈ Expr.namedMentions (bindings.getD []), names used) →
    Paired cut names (insert name bindings position) (other name bindings position)
  confined : ∀ inclusions, InsertsConfined (· ≠ .noScope) insert inclusions
  others : ∀ inclusions, InsertsConfined (· ≠ .noScope) other inclusions

variable {insert other : Insertion}

/-- Under a frame of its own, a body is rendered in pairs if it is without. -/
theorem Insertions.within (insertions : Insertions cut names first second insert other)
    {content : List Node}
    (paired : Paired cut names (body first insert content) (body second other content))
    (frame : Frame) :
    Paired cut names (Rendering.within frame (body first insert content))
      (Rendering.within frame (body second other content)) :=
  paired.within frame (body_confined ne_noScope_of_isLocal content (insertions.confined _))
    (body_confined ne_noScope_of_isLocal content (insertions.others _))

mutual

theorem node_paired (insertions : Insertions cut names first second insert other) :
    ∀ node : Node, (∀ name ∈ node.mentions, names name) →
      Paired cut names (Rendering.node first insert node) (Rendering.node second other node)
  | .text content _, _ => by
    rw [Rendering.node, Rendering.node]
    exact .write content
  | .output expr _, known => by
    rw [Rendering.node, Rendering.node, insertions.settings.escape]
    exact (evaluate_paired insertions.settings known).bind fun value => .ite (.write _) (.throw _)
  | .condition test content branches otherwise _, known => by
    simp only [Node.mentions, List.forall_mem_append] at known
    rw [Rendering.node, Rendering.node]
    refine (evaluate_paired insertions.settings known.1.1.1).bind fun value =>
      .ite (body_paired insertions content known.1.1.2) ?_
    refine (firstBranch_paired insertions branches known.1.2).bind fun taken => ?_
    exact .ite (.pure _) (option_paired insertions otherwise known.2)
  | .loop targets iterable content otherwise position, known => by
    simp only [Node.mentions, List.forall_mem_append] at known
    rw [Rendering.node, Rendering.node]
    refine (evaluate_paired insertions.settings known.1.1).bind fun value => ?_
    have turn (frame : Frame) : Paired cut names (within frame (body first insert content))
        (within frame (body second other content)) :=
      insertions.within (body_paired insertions content known.1.2) frame
    cases turns? value with
    | none => exact .throw _
    | some turns =>
        cases turns with
        | nil => exact option_paired insertions otherwise known.2
        | cons start rest =>
            exact .ite ((Paired.throw _).bind fun _ => .forM turn _) (.forM turn _)
  | .binding name value _, known => by
    rw [Rendering.node, Rendering.node]
    exact (evaluate_paired insertions.settings known).bind fun value => .set name value
  | .block _ content _, known => by
    rw [Rendering.node, Rendering.node]
    exact body_paired insertions content known
  | .parent _ _, _ => by
    rw [Rendering.node, Rendering.node]
    exact .pure _
  | .inclusion name bindings position, known => by
    rw [Rendering.node, Rendering.node]
    exact insertions.pairs name bindings position known

theorem body_paired (insertions : Insertions cut names first second insert other) :
    ∀ nodes : List Node, (∀ name ∈ Node.bodyMentions nodes, names name) →
      Paired cut names (body first insert nodes) (body second other nodes)
  | [], _ => by
    rw [body, body]
    exact .pure _
  | node :: rest, known => by
    rw [Node.bodyMentions, List.forall_mem_append] at known
    rw [body, body]
    exact (node_paired insertions node known.1).bind fun _ => body_paired insertions rest known.2

theorem branch_paired (insertions : Insertions cut names first second insert other) :
    ∀ tested : Branch, (∀ name ∈ Node.branchMentions tested, names name) →
      Paired cut names (branch first insert tested) (branch second other tested)
  | .mk test content _, known => by
    rw [Node.branchMentions, List.forall_mem_append] at known
    rw [branch, branch]
    refine (evaluate_paired insertions.settings known.1).bind fun value => .ite ?_ (.pure _)
    exact (body_paired insertions content known.2).bind fun _ => .pure _

theorem firstBranch_paired (insertions : Insertions cut names first second insert other) :
    ∀ branches : List Branch, (∀ name ∈ Node.branchesMentions branches, names name) →
      Paired cut names (firstBranch first insert branches) (firstBranch second other branches)
  | [], _ => by
    rw [firstBranch, firstBranch]
    exact .pure _
  | tested :: rest, known => by
    rw [Node.branchesMentions, List.forall_mem_append] at known
    rw [firstBranch, firstBranch]
    exact (branch_paired insertions tested known.1).bind fun taken =>
      .ite (.pure _) (firstBranch_paired insertions rest known.2)

theorem option_paired (insertions : Insertions cut names first second insert other) :
    ∀ content : Option (List Node), (∀ name ∈ Node.optionMentions content, names name) →
      Paired cut names (option first insert content) (option second other content)
  | none, _ => by
    rw [option, option]
    exact .pure _
  | some content, known => by
    rw [option, option]
    exact body_paired insertions content known

end

/-- Inclusions are rendered in pairs at every depth, as long as either run may go as deep as the
other or is cut off where it may not. -/
theorem insertion_paired (paired : first.Paired cut second) {includes : Dictionary (List Node)}
    (mentioned : ∀ name content, includes.get? name = some content →
      ∀ used ∈ Node.bodyMentions content, names used) {left further : Nat}
    (room : left = further ∧ first.options.depth = second.options.depth ∨
      left ≤ further ∧ ∀ position, cut (.blamed (.tooDeep first.options.depth) position))
    (name : String) (bindings : Option (List (String × Expr))) (position : Option Position)
    (known : ∀ used ∈ Expr.namedMentions (bindings.getD []), names used) :
    Paired cut names (insertion first includes left name bindings position)
      (insertion second includes further name bindings position) := by
  induction left generalizing further name bindings position with
  | zero =>
      rw [insertion.eq_def first, insertion.eq_def second]
      dsimp only
      cases includes.get? name with
      | none => exact .throw _
      | some content =>
          rcases room with ⟨rfl, depth⟩ | ⟨_, cutOff⟩
          · rw [depth]
            exact .throw _
          · exact .cutOff (cutOff position)
  | succ left ih =>
      cases further with
      | zero => exact (by omega : False).elim
      | succ further =>
          rw [insertion.eq_def first, insertion.eq_def second]
          dsimp only
          cases found : includes.get? name with
          | none => exact .throw _
          | some content =>
              have insertions : Insertions cut names first second (insertion first includes left)
                  (insertion second includes further) := by
                refine ⟨paired, fun name bindings position => ih ?_ name bindings position,
                  insertion_scope first includes left, insertion_scope second includes further⟩
                rcases room with ⟨same, depth⟩ | ⟨within, cutOff⟩
                · exact .inl ⟨Nat.succ.inj same, depth⟩
                · exact .inr ⟨Nat.le_of_succ_le_succ within, cutOff⟩
              have inside := body_paired insertions content (mentioned name content found)
              cases bindings with
              | none => exact insertions.within inside []
              | some pairs =>
                  refine Paired.bind (.ofScope fun _ _ agrees =>
                    Expr.evalNamed_paired paired agrees pairs known) fun values => ?_
                  exact inside.apart (Dictionary.ofList values)

theorem whole_paired (paired : first.Paired cut second) {resolved : Resolved}
    (mentioned : ∀ name ∈ resolved.mentions, names name) :
    Paired cut names (whole first resolved) (whole second resolved) := by
  rw [Resolved.mentions, List.forall_mem_append] at mentioned
  have included : ∀ name content, resolved.includes.get? name = some content →
      ∀ used ∈ Node.bodyMentions content, names used := fun name content found used among =>
    mentioned.2 used (List.mem_flatMap.mpr ⟨_, Dictionary.mem_of_get? found, among⟩)
  refine body_paired ⟨paired, fun name bindings position =>
    insertion_paired paired included ?_ name bindings position, insertion_scope first _ _,
    insertion_scope second _ _⟩ resolved.body mentioned.1
  exact paired.depth.imp_left fun same => ⟨same, same⟩

end

end Rendering

namespace Resolved

open Rendering

/-- Quoting the source line leaves the cause and the place as they are. -/
theorem quoteSource_fault (resolved : Resolved) (fault : Fault) :
    ∃ snippet, resolved.quoteSource (.fault fault) = .fault { fault with snippet := snippet } := by
  rw [quoteSource, Located.attach]
  split
  · split
    · exact ⟨_, rfl⟩
    · exact ⟨fault.snippet, rfl⟩
  · exact ⟨fault.snippet, rfl⟩

variable {cut further : Failure → Prop} {names : String → Prop} {first second : Settings}

theorem renderIn_paired (paired : first.Paired cut second) {resolved : Resolved}
    (mentioned : ∀ name ∈ resolved.mentions, names name)
    (quoted : ∀ failure, cut failure → further (resolved.quoteSource failure)) {left right : Scope}
    (agrees : left.Agrees names right) :
    Outcome.Curtails further (resolved.renderIn first left).1 (resolved.renderIn second right).1 := by
  have start : Canvas.Agrees names { scope := left } { scope := right } := ⟨rfl, agrees⟩
  rcases whole_paired paired mentioned start with
    ⟨failure, after, fails, cutOff⟩ | ⟨outcome, after, behind, one, another, agreesAfter⟩
  · have rendered : (resolved.renderIn first left).1 = .error (resolved.quoteSource failure) := by
      simp [renderIn, ExceptT.run, fails]
    rw [rendered]
    exact .error (quoted failure cutOff)
  · rw [renderIn, renderIn, ExceptT.run, ExceptT.run, one, another]
    cases outcome with
    | ok value => exact .inr (congrArg Except.ok agreesAfter.output)
    | error failure => exact .refl _

end Resolved

end Templating
