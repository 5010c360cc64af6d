import Templating.Proofs.Rendering.Confined
import Templating.Proofs.Rendering.Steps

/-!
In small steps a rendering does what it does at once, and it comes to an end.
-/

namespace Templating

namespace Rendering

namespace Point

variable {point : Point} {action other next : Rendering Unit}

theorem perform_congr (same : action point.canvas = other point.canvas) :
    point.perform action = point.perform other := by
  simp only [perform, same]

theorem perform_ok (fine : (point.perform action).outcome = .ok ()) :
    point.perform (action >>= fun _ => next) = (point.perform action).perform next := by
  have ran : action point.canvas = (.ok (), (action point.canvas).2) := Prod.ext fine rfl
  simp only [perform, Run.bind_ok ran]

theorem perform_error {failure : Failure}
    (failed : (point.perform action).outcome = .error failure) :
    point.perform (action >>= fun _ => next) = point.perform action := by
  have ran : action point.canvas = (.error failure, (action point.canvas).2) := Prod.ext failed rfl
  exact perform_congr ((Run.bind_error ran).trans ran.symm)

theorem perform_pure (fine : point.outcome = .ok ()) :
    point.perform (pure ()) = point := by
  obtain ⟨work, canvas, depth, outcome⟩ := point
  cases fine
  rfl

theorem perform_ofScope {α : Type} (read : Scope → Except Failure α) {value : α}
    {onwards : α → Rendering Unit} (gives : read point.canvas.scope = .ok value) :
    point.perform (ExceptT.mk (fun canvas => (read canvas.scope, canvas)) >>= onwards) =
      point.perform (onwards value) := by
  apply perform_congr
  exact Run.bind_ok (Prod.ext gives rfl)

theorem perform_ofScope_error {α : Type} (read : Scope → Except Failure α) {failure : Failure}
    {onwards : α → Rendering Unit} (failed : read point.canvas.scope = .error failure) :
    point.perform (ExceptT.mk (fun canvas => (read canvas.scope, canvas)) >>= onwards) =
      point.fail failure := by
  have ran : (ExceptT.mk fun canvas => (read canvas.scope, canvas) : Rendering α) point.canvas =
      (.error failure, point.canvas) := Prod.ext failed rfl
  simp only [perform, fail, Run.bind_error ran]

theorem perform_evaluate {settings : Settings} {expr : Expr} {value : Value}
    {onwards : Value → Rendering Unit}
    (evaluated : expr.eval settings point.canvas.scope = .ok value) :
    point.perform (evaluate settings expr >>= onwards) = point.perform (onwards value) :=
  perform_ofScope (expr.eval settings) evaluated

theorem perform_evaluate_error {settings : Settings} {expr : Expr} {failure : Failure}
    {onwards : Value → Rendering Unit}
    (failed : expr.eval settings point.canvas.scope = .error failure) :
    point.perform (evaluate settings expr >>= onwards) = point.fail failure :=
  perform_ofScope_error (expr.eval settings) failed

end Point

section

variable {settings : Settings} {includes : Dictionary (List Node)} {point origin : Point}
  {action next : Rendering Unit}

theorem reaches_of_step {after last : Point} (steps : step settings includes point = some after)
    (rest : Reaches settings includes after last) : Reaches settings includes point last :=
  Relation.ReflTransGen.head steps rest

theorem step_push_ok (task : Task) (fine : point.outcome = .ok ()) :
    step settings includes (point.push task) = some (task.resume settings includes point) := by
  obtain ⟨work, canvas, depth, outcome⟩ := point
  cases fine
  rfl

theorem step_push_error (task : Task) {failure : Failure}
    (failed : point.outcome = .error failure) :
    step settings includes (point.push task) = some (task.restore point) := by
  obtain ⟨work, canvas, depth, outcome⟩ := point
  cases failed
  rfl

theorem step_turned : step settings includes (point.push .turned) = some point.popped := by
  obtain ⟨work, canvas, depth, outcome⟩ := point
  cases outcome <;> rfl

theorem step_shared (next : Node.Inclusion) (saved : Nat) :
    step settings includes (point.push (.shared next saved)) =
      some { point with depth := saved }.popped := by
  obtain ⟨work, canvas, depth, outcome⟩ := point
  cases outcome <;> rfl

theorem step_own (next : Node.Inclusion) (saved : Nat) (scope : Scope) :
    step settings includes (point.push (.own next saved scope)) =
      some { point with depth := saved, canvas := { point.canvas with scope := scope } } := by
  obtain ⟨work, canvas, depth, outcome⟩ := point
  cases outcome <;> rfl

/-- What has to be done behind something is done if that has not failed. -/
theorem reaches_sequence (task : Task) (light : ∀ point, task.restore point = point)
    (first : Reaches settings includes origin ((point.perform action).push task))
    (rest : (point.perform action).outcome = .ok () → Reaches settings includes
      ((point.perform action).push task) ((point.perform action).perform next)) :
    Reaches settings includes origin (point.perform (action >>= fun _ => next)) := by
  cases ended : (point.perform action).outcome with
  | ok value =>
      rw [Point.perform_ok ended]
      exact first.trans (rest ended)
  | error failure =>
      rw [Point.perform_error ended]
      refine first.tail ?_
      rw [step_push_error task ended, light]

/-- From points with this count, the nodes are rendered in small steps as they are at once. -/
def BodyReaches (settings : Settings) (includes : Dictionary (List Node)) (depth : Nat)
    (insert : Insertion) (content : List Node) : Prop :=
  ∀ point : Point, point.depth = depth → point.outcome = .ok () →
    Reaches settings includes (point.push (.nodes content))
      (point.perform (body settings insert content))

/-- From points with this count, inclusions are rendered in small steps as they are at once. -/
def InsertionReaches (settings : Settings) (includes : Dictionary (List Node)) (depth : Nat)
    (insert : Insertion) : Prop :=
  ∀ point : Point, point.depth = depth → point.outcome = .ok () → ∀ name bindings position,
    Reaches settings includes (enterInclusion settings includes point name bindings position)
      (point.perform (insert name bindings position))

variable {depth : Nat} {insert : Insertion} {content : List Node}

theorem popped_perform (frame : Frame) (inside : Rendering Unit) :
    ((point.under frame).perform inside).popped = point.perform (within frame inside) := by
  cases ran : inside { point.canvas with scope := point.canvas.scope.push frame } with
  | mk outcome canvas =>
      have ends := within_eq ran
      cases popped : canvas.scope.pop? <;>
        simp [Point.popped, Point.perform, Point.fail, Point.under, ran, ends, popped]

theorem turns_reaches (content_reaches : BodyReaches settings includes depth insert content)
    (frames : List Frame) (same : point.depth = depth) (fine : point.outcome = .ok ()) :
    Reaches settings includes (point.push (.turns frames content))
      (point.perform (frames.forM fun frame => within frame (body settings insert content))) := by
  induction frames generalizing point with
  | nil =>
      refine reaches_of_step (step_push_ok _ fine) ?_
      show Reaches settings includes point (point.perform (pure ()))
      rw [Point.perform_pure fine]
  | cons frame frames ih =>
      show Reaches settings includes _ (point.perform (_ >>= fun _ => frames.forM _))
      refine reaches_sequence (.turns frames content) (fun _ => rfl) ?_ (ih same)
      refine reaches_of_step (step_push_ok _ fine) ?_
      have inside := content_reaches
        (((point.push (.turns frames content)).push .turned).under frame) same fine
      refine inside.tail ?_
      show step settings includes (Point.push (((point.push _).under frame).perform _) .turned) = _
      rw [step_turned, popped_perform]
      rfl

/-- The first of some branches whose test holds, or what stands for none. -/
def choice (settings : Settings) (insert : Insertion) (branches : List Branch)
    (otherwise : Option (List Node)) : Rendering Unit := do
  if ← firstBranch settings insert branches then return ()
  else option settings insert otherwise

theorem choice_nil (otherwise : Option (List Node)) :
    choice settings insert [] otherwise = body settings insert (otherwise.getD []) := by
  cases otherwise <;> rfl

theorem choice_cons (test : Expr) (position : Option Position) (rest : List Branch)
    (otherwise : Option (List Node)) :
    choice settings insert (.mk test content position :: rest) otherwise = (do
      let value ← evaluate settings test
      if value.isTruthy then body settings insert content
      else choice settings insert rest otherwise) := by
  simp only [choice, firstBranch, branch, bind_assoc]
  congr 1
  funext value
  cases value.isTruthy <;> simp

theorem node_condition (test : Expr) (branches : List Branch) (otherwise : Option (List Node))
    (position : Option Position) :
    node settings insert (.condition test content branches otherwise position) =
      choice settings insert (.mk test content position :: branches) otherwise := by
  rw [choice_cons]
  rfl

theorem node_loop (targets : List String) (iterable : Expr) (otherwise : Option (List Node))
    (position : Option Position) :
    node settings insert (.loop targets iterable content otherwise position) = (do
      let value ← evaluate settings iterable
      match turns? value with
      | none => throwAt (.notIterable value.typeName) (iterable.position.or position)
      | some [] => body settings insert (otherwise.getD [])
      | some turns =>
        if targets.isEmpty then throw .noTarget
        else (turnFrames targets turns).forM fun frame =>
          within frame (body settings insert content)) := by
  cases otherwise <;> rfl

/-- From points with this count, the branches are tried in small steps as they are at once. -/
def ChoiceReaches (settings : Settings) (includes : Dictionary (List Node)) (depth : Nat)
    (insert : Insertion) (branches : List Branch) (otherwise : Option (List Node)) : Prop :=
  ∀ point : Point, point.depth = depth → point.outcome = .ok () →
    Reaches settings includes (point.push (.branches branches otherwise))
      (point.perform (choice settings insert branches otherwise))

theorem choice_reaches_nil {otherwise : Option (List Node)}
    (last : BodyReaches settings includes depth insert (otherwise.getD [])) :
    ChoiceReaches settings includes depth insert [] otherwise := by
  intro point same fine
  rw [choice_nil]
  exact reaches_of_step (step_push_ok _ fine) (last point same fine)

theorem choice_reaches_cons {tested : Branch} {rest : List Branch}
    {otherwise : Option (List Node)}
    (first : BodyReaches settings includes depth insert tested.body)
    (others : ChoiceReaches settings includes depth insert rest otherwise) :
    ChoiceReaches settings includes depth insert (tested :: rest) otherwise := by
  obtain ⟨test, content, position⟩ := tested
  intro point same fine
  refine reaches_of_step (step_push_ok _ fine) ?_
  rw [choice_cons, Task.resume]
  cases evaluated : test.eval settings point.canvas.scope with
  | error failure => rw [Point.perform_evaluate_error evaluated]
  | ok value =>
      rw [Point.perform_evaluate evaluated]
      cases holds : value.isTruthy with
      | true =>
          simp only [holds, if_true]
          exact first point same fine
      | false =>
          simp only [holds, Bool.false_eq_true, if_false]
          exact others point same fine

theorem loop_reaches {targets : List String} {iterable : Expr} {otherwise : Option (List Node)}
    {position : Option Position} (inside : BodyReaches settings includes depth insert content)
    (turnless : BodyReaches settings includes depth insert (otherwise.getD []))
    (same : point.depth = depth) (fine : point.outcome = .ok ()) :
    Reaches settings includes
      (enter settings includes point (.loop targets iterable content otherwise position))
      (point.perform
        (node settings insert (.loop targets iterable content otherwise position))) := by
  rw [node_loop, enter]
  cases evaluated : iterable.eval settings point.canvas.scope with
  | error failure => rw [Point.perform_evaluate_error evaluated]
  | ok value =>
      rw [Point.perform_evaluate evaluated]
      cases iterates : turns? value with
      | none =>
          simp only [iterates]
          exact .refl
      | some turns =>
          cases turns with
          | nil =>
              simp only [iterates]
              exact turnless point same fine
          | cons turn rest =>
              simp only [iterates]
              cases targets with
              | nil => exact .refl
              | cons target targets => exact turns_reaches inside _ same fine

mutual

theorem node_reaches (inserts : InsertionReaches settings includes depth insert) :
    ∀ (node : Node) (point : Point), point.depth = depth → point.outcome = .ok () →
      Reaches settings includes (enter settings includes point node)
        (point.perform (Rendering.node settings insert node))
  | .text .., _, _, _ => .refl
  | .output .., _, _, _ => .refl
  | .binding .., _, _, _ => .refl
  | .parent .., point, _, fine => by
    rw [Rendering.node, Point.perform_pure fine]
    exact .refl
  | .condition test content branches otherwise position, point, same, fine => by
    rw [node_condition]
    exact choice_reaches_cons (body_reaches inserts content)
      (branches_reaches inserts branches (option_reaches inserts otherwise)) point same fine
  | .loop _ _ content otherwise _, _, same, fine =>
    loop_reaches (body_reaches inserts content) (option_reaches inserts otherwise) same fine
  | .block _ content _, point, same, fine => body_reaches inserts content point same fine
  | .inclusion name bindings position, point, same, fine =>
    inserts point same fine name bindings position

theorem body_reaches (inserts : InsertionReaches settings includes depth insert) :
    ∀ content : List Node, BodyReaches settings includes depth insert content
  | [], point, _, fine => by
    refine reaches_of_step (step_push_ok _ fine) ?_
    rw [body, Point.perform_pure fine]
    exact .refl
  | node :: rest, point, same, fine => by
    rw [body]
    refine reaches_sequence (.nodes rest) (fun _ => rfl) ?_ (body_reaches inserts rest _ same)
    exact reaches_of_step (step_push_ok _ fine)
      (node_reaches inserts node (point.push (.nodes rest)) same fine)

theorem branch_reaches (inserts : InsertionReaches settings includes depth insert) :
    ∀ tested : Branch, BodyReaches settings includes depth insert tested.body
  | .mk _ content _ => body_reaches inserts content

theorem branches_reaches (inserts : InsertionReaches settings includes depth insert)
    {otherwise : Option (List Node)} :
    ∀ branches : List Branch, BodyReaches settings includes depth insert (otherwise.getD []) →
      ChoiceReaches settings includes depth insert branches otherwise
  | [], last => choice_reaches_nil last
  | tested :: rest, last =>
    choice_reaches_cons (branch_reaches inserts tested) (branches_reaches inserts rest last)

theorem option_reaches (inserts : InsertionReaches settings includes depth insert) :
    ∀ otherwise : Option (List Node),
      BodyReaches settings includes depth insert (otherwise.getD [])
  | none => body_reaches inserts []
  | some content => body_reaches inserts content

end

theorem perform_apart (frame : Frame) (inside : Rendering Unit) :
    let after :=
      { point with canvas := { point.canvas with scope := .ofFrame frame } }.perform inside
    { after with canvas := { after.canvas with scope := point.canvas.scope } } =
      point.perform (apart frame inside) := by
  cases ran : inside { point.canvas with scope := .ofFrame frame } with
  | mk outcome canvas => simp [Point.perform, ran, apart_run ran]

theorem shared_reaches (inside : BodyReaches settings includes (depth + 1) insert content)
    (next : Node.Inclusion) (same : point.depth = depth) (fine : point.outcome = .ok ()) :
    Reaches settings includes
      (({ point.push (.shared next point.depth) with depth := point.depth + 1 }.under []).push
        (.nodes content))
      (point.perform (within [] (body settings insert content))) := by
  have deeper : point.depth + 1 = depth + 1 := congrArg (· + 1) same
  have inner := inside
    ({ point.push (.shared next point.depth) with depth := point.depth + 1 }.under []) deeper fine
  refine inner.tail ?_
  show step settings includes
    (Point.push (({ point with depth := point.depth + 1 }.under []).perform _) _) = _
  rw [step_shared, ← popped_perform]
  rfl

theorem own_reaches (inside : BodyReaches settings includes (depth + 1) insert content)
    (next : Node.Inclusion) (frame : Frame) (same : point.depth = depth)
    (fine : point.outcome = .ok ()) :
    Reaches settings includes
      (Point.push { point.push (.own next point.depth point.canvas.scope) with
        canvas := { point.canvas with scope := .ofFrame frame }, depth := point.depth + 1 }
        (.nodes content))
      (point.perform (apart frame (body settings insert content))) := by
  have deeper : point.depth + 1 = depth + 1 := congrArg (· + 1) same
  have inner := inside { point.push (.own next point.depth point.canvas.scope) with
    canvas := { point.canvas with scope := .ofFrame frame }, depth := point.depth + 1 } deeper fine
  refine inner.tail ?_
  show step settings includes (Point.push (Point.perform { point with
    canvas := { point.canvas with scope := .ofFrame frame }, depth := point.depth + 1 } _) _) = _
  rw [step_own, ← perform_apart]
  rfl

/-- Inclusions are rendered step by step if the levels that are left are those up to the limit. -/
theorem insertion_reaches {left : Nat} (levels : depth + left = settings.options.depth) :
    InsertionReaches settings includes depth (insertion settings includes left) := by
  -- The bodies are finite and the levels get fewer, though the templates may include themselves.
  induction left generalizing depth with
  | zero =>
      intro point same fine name bindings position
      rw [enterInclusion, insertion]
      cases includes.get? name with
      | none => exact .refl
      | some content =>
          have full : settings.options.depth ≤ point.depth := by omega
          simp only [full, if_true]
          exact .refl
  | succ left ih =>
      intro point same fine name bindings position
      rw [enterInclusion, insertion]
      cases includes.get? name with
      | none => exact .refl
      | some content =>
          have room : ¬ settings.options.depth ≤ point.depth := by omega
          have inside : BodyReaches settings includes (depth + 1)
              (insertion settings includes left) content :=
            body_reaches (ih (by omega)) content
          simp only [room, if_false]
          cases bindings with
          | none => exact shared_reaches inside ⟨name, position⟩ same fine
          | some pairs =>
              let read (scope : Scope) := Expr.evalNamed settings scope pairs
              cases evaluated : read point.canvas.scope with
              | error failure =>
                  have seen : insideScope settings point.canvas.scope (some pairs) =
                      .error failure := congrArg (Except.map _) evaluated
                  simp only [seen]
                  rw [Point.perform_ofScope_error read evaluated]
              | ok values =>
                  have seen : insideScope settings point.canvas.scope (some pairs) =
                      .ok (.ofFrame (Dictionary.ofList values)) := congrArg (Except.map _) evaluated
                  simp only [seen]
                  rw [Point.perform_ofScope read evaluated]
                  exact own_reaches inside ⟨name, position⟩ (Dictionary.ofList values) same fine

/-- Where a rendering ends, nothing is left to do, and all is as if it had been done at once. -/
theorem whole_reaches (settings : Settings) (resolved : Resolved) (scope : Scope) :
    Reached settings resolved scope
      (Point.perform { work := [], canvas := { scope := scope } } (whole settings resolved)) :=
  body_reaches (insertion_reaches (Nat.zero_add _)) resolved.body _ rfl rfl

/-- There is only one way to go on, so that every point comes to the end. -/
theorem reaches_last {last : Point} (ends : Reaches settings includes origin last)
    (done : step settings includes last = none) (reached : Reaches settings includes origin point) :
    Reaches settings includes point last := by
  have unique : Relator.RightUnique fun point next : Point =>
      step settings includes point = some next := fun _ _ _ left right =>
    Option.some.inj (left.symm.trans right)
  rcases Relation.ReflTransGen.total_of_right_unique unique ends reached with beyond | onwards
  · cases beyond.cases_head with
    | inl same => rw [same]
    | inr further =>
        obtain ⟨next, steps, _⟩ := further
        rw [done] at steps
        cases steps
  · exact onwards

end

end Rendering

end Templating
