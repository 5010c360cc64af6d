import Templating.Proofs.Rendering.Scopes

/-!
Rendering adds to the output and never reads it: what a run does is the same behind any text.
-/

namespace Templating

namespace Canvas

/-- The canvas behind this text. -/
def behind (text : String) (canvas : Canvas) : Canvas :=
  { canvas with output := text ++ canvas.output }

@[simp] theorem scope_behind (text : String) (canvas : Canvas) :
    (canvas.behind text).scope = canvas.scope := rfl

@[simp] theorem output_behind (text : String) (canvas : Canvas) :
    (canvas.behind text).output = text ++ canvas.output := rfl

/-- Every canvas is an empty one behind its output. -/
theorem behind_empty (canvas : Canvas) :
    behind canvas.output { scope := canvas.scope } = canvas := by
  simp [behind]

end Canvas

namespace Rendering

variable {α β : Type} {run : Rendering α} {next : α → Rendering β}

/-- Behind a text the run ends as it does alone, and leaves its own output behind the text. -/
def Appends (run : Rendering α) : Prop :=
  ∀ (text : String) (canvas : Canvas),
    run (canvas.behind text) = ((run canvas).1, (run canvas).2.behind text)

namespace Appends

theorem run_eq (appends : Appends run) {text : String} {canvas after : Canvas}
    {outcome : Except Failure α} (alone : run canvas = (outcome, after)) :
    run (canvas.behind text) = (outcome, after.behind text) := by
  rw [appends text canvas, alone]

theorem pure (value : α) : Appends (pure value : Rendering α) :=
  fun _ _ => rfl

theorem throw (failure : Failure) : Appends (throw failure : Rendering α) :=
  fun _ _ => rfl

theorem bind (appends : Appends run) (continues : ∀ value, Appends (next value)) :
    Appends (run >>= next) := by
  intro text canvas
  cases first : run canvas with
  | mk outcome between =>
      cases outcome with
      | ok value =>
          rw [Run.bind_ok (appends.run_eq first), Run.bind_ok first]
          exact continues value text between
      | error failure => rw [Run.bind_error (appends.run_eq first), Run.bind_error first]

theorem ite {condition : Prop} [Decidable condition] {other : Rendering α} (yes : Appends run)
    (no : Appends other) : Appends (if condition then run else other) := by
  split
  · exact yes
  · exact no

theorem forM {action : α → Rendering PUnit} (each : ∀ item, Appends (action item))
    (items : List α) : Appends (items.forM action) := by
  induction items with
  | nil => exact pure _
  | cons item items ih => exact (each item).bind fun _ => ih

theorem write (more : String) : Appends (write more) := by
  intro text canvas
  have wrote (canvas : Canvas) : Rendering.write more canvas =
      (.ok (), { canvas with output := canvas.output ++ more }) := rfl
  simp [wrote, Canvas.behind, String.append_assoc]

theorem set (name : String) (value : Value) :
    Appends (modify fun canvas => { canvas with scope := canvas.scope.set name value } :
      Rendering PUnit) :=
  fun _ _ => rfl

theorem ofScope (compute : Scope → Except Failure α) :
    Appends (ExceptT.mk fun canvas => (compute canvas.scope, canvas) : Rendering α) :=
  fun _ _ => rfl

theorem within {inside : Rendering Unit} (appends : Appends inside) (frame : Frame) :
    Appends (within frame inside) := by
  intro text canvas
  cases inner : inside { canvas with scope := canvas.scope.push frame } with
  | mk outcome after =>
      have shifted : inside { canvas.behind text with scope := canvas.scope.push frame } =
          (outcome, after.behind text) := appends.run_eq inner
      rw [within_eq inner, within_eq shifted, Canvas.scope_behind]
      cases after.scope.pop? <;> rfl

theorem apart {inside : Rendering Unit} (appends : Appends inside) (frame : Frame) :
    Appends (apart frame inside) := by
  intro text canvas
  cases inner : inside { canvas with scope := .ofFrame frame } with
  | mk outcome after =>
      have shifted : inside { canvas.behind text with scope := .ofFrame frame } =
          (outcome, after.behind text) := appends.run_eq inner
      rw [apart_run inner, apart_run shifted]
      rfl

end Appends

section

variable {settings : Settings} {insert : Insertion}

theorem evaluate_appends (expr : Expr) : Appends (evaluate settings expr) :=
  .ofScope fun scope => expr.eval settings scope

mutual

theorem node_appends (inserts : ∀ name bindings position, Appends (insert name bindings position)) :
    ∀ node : Node, Appends (Rendering.node settings insert node)
  | .text content _ => by
    rw [Rendering.node]
    exact .write content
  | .output expr _ => by
    rw [Rendering.node]
    exact (evaluate_appends expr).bind fun _ => .ite (.write _) (.throw _)
  | .condition test content branches otherwise _ => by
    rw [Rendering.node]
    refine (evaluate_appends test).bind fun _ => .ite (body_appends inserts content) ?_
    exact (firstBranch_appends inserts branches).bind fun _ =>
      .ite (.pure _) (option_appends inserts otherwise)
  | .loop targets iterable content otherwise position => by
    have turn (frame : Frame) : Appends (within frame (body settings insert content)) :=
      (body_appends inserts content).within frame
    rw [Rendering.node]
    refine (evaluate_appends iterable).bind fun value => ?_
    cases turns? value with
    | none => exact .throw _
    | some turns =>
        cases turns with
        | nil => exact option_appends inserts otherwise
        | cons first rest => exact .ite ((Appends.throw _).bind fun _ => .forM turn _) (.forM turn _)
  | .binding name value _ => by
    rw [Rendering.node]
    exact (evaluate_appends value).bind fun value => .set name value
  | .block _ content _ => by
    rw [Rendering.node]
    exact body_appends inserts content
  | .parent _ _ => by
    rw [Rendering.node]
    exact .pure _
  | .inclusion name bindings position => by
    rw [Rendering.node]
    exact inserts name bindings position

theorem body_appends (inserts : ∀ name bindings position, Appends (insert name bindings position)) :
    ∀ nodes : List Node, Appends (body settings insert nodes)
  | [] => by
    rw [body]
    exact .pure _
  | node :: rest => by
    rw [body]
    exact (node_appends inserts node).bind fun _ => body_appends inserts rest

theorem branch_appends
    (inserts : ∀ name bindings position, Appends (insert name bindings position)) :
    ∀ tested : Branch, Appends (branch settings insert tested)
  | .mk test content _ => by
    rw [branch]
    exact (evaluate_appends test).bind fun _ =>
      .ite ((body_appends inserts content).bind fun _ => .pure _) (.pure _)

theorem firstBranch_appends
    (inserts : ∀ name bindings position, Appends (insert name bindings position)) :
    ∀ branches : List Branch, Appends (firstBranch settings insert branches)
  | [] => by
    rw [firstBranch]
    exact .pure _
  | tested :: rest => by
    rw [firstBranch]
    exact (branch_appends inserts tested).bind fun _ =>
      .ite (.pure _) (firstBranch_appends inserts rest)

theorem option_appends
    (inserts : ∀ name bindings position, Appends (insert name bindings position)) :
    ∀ content : Option (List Node), Appends (option settings insert content)
  | none => by
    rw [option]
    exact .pure _
  | some content => by
    rw [option]
    exact body_appends inserts content

end

theorem insertion_appends (settings : Settings) (includes : Dictionary (List Node)) (left : Nat)
    (name : String) (bindings : Option (List (String × Expr))) (position : Option Position) :
    Appends (insertion settings includes left name bindings position) := by
  induction left generalizing name bindings position with
  | zero =>
      rw [insertion]
      cases includes.get? name <;> exact .throw _
  | succ left ih =>
      rw [insertion]
      cases includes.get? name with
      | none => exact .throw _
      | some content =>
          have inside : Appends (body settings (insertion settings includes left) content) :=
            body_appends ih content
          cases bindings with
          | none => exact inside.within []
          | some pairs =>
              exact (Appends.ofScope fun scope => Expr.evalNamed settings scope pairs).bind
                fun values => inside.apart (Dictionary.ofList values)

end

end Rendering

end Templating
