import Templating.Proofs.Escaping.Evaluation
import Templating.Proofs.Inheritance.Parts
import Templating.Proofs.Run
import Templating.Rendering

/-!
Rendering with escaping keeps the scope tame and the output clean.
-/

namespace Templating

/-- The scope is tame and the output is clean. -/
structure Canvas.Tame (canvas : Canvas) : Prop where
  scope : canvas.scope.Each Value.Tame
  output : Text.IsClean canvas.output.toList

namespace Rendering

theorem shown_clean {value : Value} (tame : value.Tame) :
    Text.IsClean (shown .html value).toList := by
  unfold shown
  split
  · exact tame rfl
  · exact Text.escapeMarkup_clean _

theorem turns?_tame {value : Value} {turns : List (Value × Value × Value)} (tame : value.Tame)
    (iterates : turns? value = some turns) :
    ∀ turn ∈ turns, turn.1.Tame ∧ turn.2.1.Tame ∧ turn.2.2.Tame := by
  cases value with
  | mapping entries =>
      cases iterates
      intro turn member
      obtain ⟨entry, inside, rfl⟩ := List.mem_map.mp member
      have tameEntry := Value.entriesEach_iff.mp tame entry inside
      exact ⟨tameEntry.1.toValue, tameEntry.1.toValue, tameEntry.2⟩
  | sequence kind items =>
      cases iterates
      intro turn member
      obtain ⟨index, bound, rfl⟩ := List.mem_mapIdx.mp member
      have tameItem := Value.tame_sequence.mp tame _ (List.getElem_mem bound)
      exact ⟨tameItem, trivial, tameItem⟩
  | _ => cases iterates

theorem loopRecord_tame (index length : Nat) : (loopRecord index length).Tame :=
  Value.Plain.tame ⟨rfl, trivial, rfl, trivial, rfl, trivial, rfl, trivial, trivial⟩

theorem turnFrame_tame (targets : List String) (length index : Nat) {turn : Value × Value × Value}
    (tame : turn.1.Tame ∧ turn.2.1.Tame ∧ turn.2.2.Tame) :
    Dictionary.Each Value.Tame (turnFrame targets length index turn) := by
  have start : Dictionary.Each Value.Tame [("loop", loopRecord index length)] :=
    List.forall_mem_singleton.mpr (loopRecord_tame index length)
  unfold turnFrame
  split
  · exact (start.set _ tame.2.1).set _ tame.2.2
  · exact start.set _ tame.1
  · exact start

theorem turnFrames_tame (targets : List String) {turns : List (Value × Value × Value)}
    (tame : ∀ turn ∈ turns, turn.1.Tame ∧ turn.2.1.Tame ∧ turn.2.2.Tame) :
    ∀ frame ∈ turnFrames targets turns, Dictionary.Each Value.Tame frame := by
  intro frame member
  obtain ⟨index, bound, rfl⟩ := List.mem_mapIdx.mp member
  exact turnFrame_tame targets turns.length index (tame _ (List.getElem_mem bound))

theorem write_maintains {text : String} (clean : Text.IsClean text.toList) :
    Maintains Canvas.Tame (write text) fun _ => True := by
  intro before value after tame run
  cases run
  refine ⟨⟨tame.scope, ?_⟩, trivial⟩
  rw [String.toList_append]
  exact tame.output.append clean

/-- Rendering under a frame of its own leaves the scope around it as tame as it was. -/
theorem within_maintains {frame : Frame} {inside : Rendering Unit}
    (new : Dictionary.Each Value.Tame frame)
    (maintains : Maintains Canvas.Tame inside fun _ => True) :
    Maintains Canvas.Tame (within frame inside) fun _ => True := by
  intro before value after tame run
  have pushed : Canvas.Tame { before with scope := before.scope.push frame } :=
    ⟨tame.scope.push new, tame.output⟩
  cases inner : inside { before with scope := before.scope.push frame } with
  | mk outcome canvas =>
      cases popped : canvas.scope.pop? with
      | none =>
          have failed : within frame inside before = (.error .noScope, canvas) := by
            simp [within, ExceptT.run, ExceptT.mk, inner, popped]
          rw [failed] at run
          cases run
      | some scope =>
          have left : within frame inside before = (outcome, { canvas with scope := scope }) := by
            simp [within, ExceptT.run, ExceptT.mk, inner, popped]
          rw [left] at run
          cases run
          obtain ⟨tameInner, _⟩ := maintains pushed inner
          exact ⟨⟨tameInner.scope.pop? popped, tameInner.output⟩, trivial⟩

theorem apart_maintains {frame : Frame} {inside : Rendering Unit}
    (new : Dictionary.Each Value.Tame frame)
    (maintains : Maintains Canvas.Tame inside fun _ => True) :
    Maintains Canvas.Tame (apart frame inside) fun _ => True := by
  intro before value after tame run
  have fresh : Canvas.Tame { before with scope := .ofFrame frame } := ⟨.ofFrame new, tame.output⟩
  cases inner : inside { before with scope := .ofFrame frame } with
  | mk outcome canvas =>
      have left : apart frame inside before =
          (outcome, { canvas with scope := before.scope }) := by
        simp [apart, ExceptT.run, ExceptT.mk, inner]
      rw [left] at run
      cases run
      exact ⟨⟨tame.scope, (maintains fresh inner).1.output⟩, trivial⟩

/-- Output is escaped, and the allowed filters keep values tame. -/
structure Guards (settings : Settings) (allowed : String → Prop) : Prop where
  escapes : settings.options.escape = .html
  keeps : ∀ name filter, allowed name → settings.filters.find? name = some filter → filter.Tame

/-- A text that may stand in a template. -/
abbrev CleanText (content : String) : Prop :=
  Text.IsClean content.toList

/-- The texts are clean, the literals are tame, and only allowed filters are applied. -/
abbrev Harmless (allowed : String → Prop) : List Node → Prop :=
  Node.BodyEvery CleanText (Expr.Every Value.Tame allowed)

/-- Inclusions keep the scope tame and the output clean. -/
def InsertsTame (allowed : String → Prop) (insert : Insertion) : Prop :=
  ∀ name bindings position,
    (∀ pairs ∈ bindings, ∀ pair ∈ pairs, Expr.Every Value.Tame allowed pair.2) →
    Maintains Canvas.Tame (insert name bindings position) fun _ => True

variable {settings : Settings} {allowed : String → Prop} {insert : Insertion}

theorem evaluate_maintains (guards : Guards settings allowed) {expr : Expr}
    (every : expr.Every Value.Tame allowed) :
    Maintains Canvas.Tame (evaluate settings expr) Value.Tame := by
  intro before value after tame run
  have values := Expr.eval_gives guards.keeps tame.scope expr every
  cases found : expr.eval settings before.scope with
  | error failure =>
      have failed : evaluate settings expr before = (.error failure, before) := by
        rw [evaluate, Run.get_bind, found]
        rfl
      rw [failed] at run
      cases run
  | ok result =>
      have gives : evaluate settings expr before = (.ok result, before) := by
        rw [evaluate, Run.get_bind, found]
        rfl
      rw [gives] at run
      cases run
      exact ⟨tame, values value found⟩

mutual

theorem node_maintains (guards : Guards settings allowed) (inserts : InsertsTame allowed insert) :
    ∀ node : Node, node.Every CleanText (Expr.Every Value.Tame allowed) →
      Maintains Canvas.Tame (Rendering.node settings insert node) fun _ => True
  | .text content _, every => write_maintains every
  | .output expr _, every => by
    rw [Rendering.node]
    refine Maintains.bind (evaluate_maintains guards every) fun value tame => ?_
    split
    · rw [guards.escapes]
      exact write_maintains (shown_clean tame)
    · exact Maintains.throw
  | .condition test content branches otherwise _, every => by
    rw [Rendering.node]
    refine Maintains.bind (evaluate_maintains guards every.1) fun value _ => ?_
    split
    · exact body_maintains guards inserts content every.2.1
    · refine Maintains.bind (firstBranch_maintains guards inserts branches every.2.2.1)
        fun taken _ => ?_
      split
      · exact Maintains.pure trivial
      · exact option_maintains guards inserts otherwise every.2.2.2
  | .loop targets iterable content otherwise position, every => by
    rw [Rendering.node]
    refine Maintains.bind (evaluate_maintains guards every.1) fun value tame => ?_
    cases iterates : turns? value with
    | none => exact Maintains.throw
    | some turns =>
        have inside := body_maintains guards inserts content every.2.1
        have frames := turnFrames_tame targets (turns?_tame tame iterates)
        cases turns with
        | nil => exact option_maintains guards inserts otherwise every.2.2
        | cons turn turns =>
            by_cases targetless : targets.isEmpty
            · simp only [targetless, if_true]
              exact Maintains.throwBind
            · simp only [targetless]
              exact Maintains.forM fun frame member =>
                within_maintains (frames frame member) inside
  | .binding name value _, every => by
    rw [Rendering.node]
    refine Maintains.bind (evaluate_maintains guards every) fun value tame => ?_
    intro before result after tameBefore run
    cases run
    exact ⟨⟨tameBefore.scope.set name tame, tameBefore.output⟩, trivial⟩
  | .block _ content _, every => body_maintains guards inserts content every
  | .parent _ _, _ => Maintains.pure trivial
  | .inclusion name bindings position, every => inserts name bindings position every

theorem body_maintains (guards : Guards settings allowed) (inserts : InsertsTame allowed insert) :
    ∀ nodes : List Node, Harmless allowed nodes →
      Maintains Canvas.Tame (body settings insert nodes) fun _ => True
  | [], _ => Maintains.pure trivial
  | first :: rest, every => by
    rw [body]
    exact Maintains.bind (node_maintains guards inserts first every.1) fun _ _ =>
      body_maintains guards inserts rest every.2

theorem branch_maintains (guards : Guards settings allowed) (inserts : InsertsTame allowed insert) :
    ∀ tested : Branch, Node.BranchEvery CleanText (Expr.Every Value.Tame allowed) tested →
      Maintains Canvas.Tame (branch settings insert tested) fun _ => True
  | .mk test content _, every => by
    rw [branch]
    refine Maintains.bind (evaluate_maintains guards every.1) fun value _ => ?_
    split
    · exact Maintains.bind (body_maintains guards inserts content every.2) fun _ _ =>
        Maintains.pure trivial
    · exact Maintains.pure trivial

theorem firstBranch_maintains (guards : Guards settings allowed)
    (inserts : InsertsTame allowed insert) :
    ∀ branches : List Branch,
      Node.BranchesEvery CleanText (Expr.Every Value.Tame allowed) branches →
      Maintains Canvas.Tame (firstBranch settings insert branches) fun _ => True
  | [], _ => Maintains.pure trivial
  | first :: rest, every => by
    rw [firstBranch]
    refine Maintains.bind (branch_maintains guards inserts first every.1) fun taken _ => ?_
    split
    · exact Maintains.pure trivial
    · exact firstBranch_maintains guards inserts rest every.2

theorem option_maintains (guards : Guards settings allowed) (inserts : InsertsTame allowed insert) :
    ∀ content : Option (List Node),
      Node.OptionEvery CleanText (Expr.Every Value.Tame allowed) content →
      Maintains Canvas.Tame (option settings insert content) fun _ => True
  | none, _ => Maintains.pure trivial
  | some content, every => by
    rw [option]
    exact body_maintains guards inserts content every

end

theorem insertion_maintains (guards : Guards settings allowed) {includes : Dictionary (List Node)}
    (each : includes.Each (Harmless allowed)) (left : Nat) :
    InsertsTame allowed (insertion settings includes left) := by
  induction left with
  | zero =>
      intro name bindings position _
      rw [insertion]
      split <;> exact Maintains.throw
  | succ left ih =>
      intro name bindings position every
      rw [insertion]
      cases found : includes.get? name with
      | none => exact Maintains.throw
      | some content =>
          have inside := body_maintains guards ih content (each.get? found)
          cases bindings with
          | none => exact within_maintains .nil inside
          | some pairs =>
              have values : Maintains Canvas.Tame (ExceptT.mk fun canvas =>
                  (Expr.evalNamed settings canvas.scope pairs, canvas) : Rendering _)
                  (Dictionary.Each Value.Tame) := by
                intro before values after tame run
                obtain ⟨evaluated, same⟩ := Prod.mk.inj run
                have all := Expr.namedEvery_iff.mpr (every pairs rfl)
                rw [← same]
                exact ⟨tame, Expr.evalNamed_gives guards.keeps tame.scope pairs all values evaluated⟩
              refine Maintains.bind values fun values tame => ?_
              exact apart_maintains (.ofList tame) inside

/-- A whole rendering keeps the scope tame and the output clean. -/
theorem whole_maintains (guards : Guards settings allowed) {resolved : Resolved}
    (every : resolved.Every CleanText (Expr.Every Value.Tame allowed)) :
    Maintains Canvas.Tame (whole settings resolved) fun _ => True :=
  body_maintains guards (insertion_maintains guards every.includes _) resolved.body every.body

end Rendering

end Templating
