import Templating.Proofs.Inheritance.Closure
import Templating.Proofs.Rendering.Scopes
import Templating.Proofs.Rendering.Stepwise

/-!
Templates that include themselves. At every point of a rendering the count is the number of the
inclusions around it. It never exceeds the limit, and every rendering ends.
-/

namespace Templating

theorem Scope.length_inner_set (scope : Scope) (name : String) (value : Value) :
    (scope.set name value).inner.length = scope.inner.length := by
  obtain ⟨root, inner⟩ := scope
  cases inner <;> rfl

namespace Rendering

/-- A task that puts nothing back. -/
def Task.IsLight : Task → Prop
  | nodes _ | branches _ _ | turns _ _ => True
  | turned | shared _ _ | own _ _ _ => False

/-- The directives that a task still comes to. -/
def Task.directives : Task → List Node.Inclusion
  | nodes rest => Node.bodyInclusions rest
  | branches rest otherwise => Node.branchesInclusions rest ++ Node.optionInclusions otherwise
  | turns _ content => Node.bodyInclusions content
  | turned | shared _ _ | own _ _ _ => []

/-- With a count and so many frames over the root, every task puts back the count that belongs to
what is below it, and finds the frame that it takes away. -/
inductive Stacked : List Task → Nat → Nat → Prop where
  | nil (frames : Nat) : Stacked [] 0 frames
  | light {task : Task} {below : List Task} {depth frames : Nat} (light : task.IsLight)
      (rest : Stacked below depth frames) : Stacked (task :: below) depth frames
  | turned {below : List Task} {depth frames : Nat} (rest : Stacked below depth frames) :
      Stacked (.turned :: below) depth (frames + 1)
  | shared {next : Node.Inclusion} {below : List Task} {depth frames : Nat}
      (rest : Stacked below depth frames) :
      Stacked (.shared next depth :: below) (depth + 1) (frames + 1)
  | own {next : Node.Inclusion} {scope : Scope} {below : List Task} {depth frames : Nat}
      (rest : Stacked below depth scope.inner.length) :
      Stacked (.own next depth scope :: below) (depth + 1) frames

theorem Stacked.depth_eq {work : List Task} {depth frames : Nat}
    (stacked : Stacked work depth frames) :
    depth = (work.filterMap Task.inclusion?).length := by
  induction stacked with
  | nil => rfl
  | @light task _ _ _ light _ ih =>
      cases task with
      | nodes | branches | turns => exact ih
      | turned | shared | own => exact light.elim
  | turned _ ih => exact ih
  | shared _ ih | own _ ih => exact congrArg (· + 1) ih

theorem Stacked.rest {task : Task} {below : List Task} {depth frames : Nat}
    (stacked : Stacked (task :: below) depth frames) (light : task.IsLight) :
    Stacked below depth frames := by
  cases stacked with
  | light _ rest => exact rest
  | turned | shared | own => exact light.elim

/-- What holds at every point of a rendering. -/
structure Point.Sound (limit : Nat) (known : String → Prop) (point : Point) : Prop where
  stacked : Stacked point.work point.depth point.canvas.scope.inner.length
  bounded : point.depth ≤ limit
  directives : ∀ task ∈ point.work, ∀ next ∈ task.directives, known next.name

namespace Point

variable {limit : Nat} {known : String → Prop} {point : Point} {task : Task}

namespace Sound

theorem fail (sound : point.Sound limit known) (failure : Failure) :
    (point.fail failure).Sound limit known :=
  ⟨sound.stacked, sound.bounded, sound.directives⟩

theorem push (sound : point.Sound limit known) (task : Task) (light : task.IsLight)
    (directives : ∀ next ∈ task.directives, known next.name) :
    (point.push task).Sound limit known :=
  ⟨.light light sound.stacked, sound.bounded,
    List.forall_mem_cons.mpr ⟨directives, sound.directives⟩⟩

theorem rest (sound : (point.push task).Sound limit known) (light : task.IsLight) :
    point.Sound limit known :=
  ⟨sound.stacked.rest light, sound.bounded, (List.forall_mem_cons.mp sound.directives).2⟩

theorem perform (sound : point.Sound limit known) {action : Rendering Unit}
    (kept : (action point.canvas).2.scope.inner.length = point.canvas.scope.inner.length) :
    (point.perform action).Sound limit known where
  stacked := by
    show Stacked point.work point.depth (action point.canvas).2.scope.inner.length
    rw [kept]
    exact sound.stacked
  bounded := sound.bounded
  directives := sound.directives

end Sound

theorem popped_eq {frames : Nat} (several : point.canvas.scope.inner.length = frames + 1) :
    ∃ scope, scope.inner.length = frames ∧
      point.popped = { point with canvas := { point.canvas with scope := scope } } := by
  obtain ⟨work, ⟨⟨root, inner⟩, output⟩, depth, outcome⟩ := point
  cases inner with
  | nil => cases several
  | cons frame rest => exact ⟨⟨root, rest⟩, Nat.succ.inj several, rfl⟩

/-- What a task puts back belongs to what is below it, and no failure is lost or added. -/
theorem Sound.restore (sound : (point.push task).Sound limit known) :
    (task.restore point).Sound limit known ∧ (task.restore point).outcome = point.outcome := by
  have directives := (List.forall_mem_cons.mp sound.directives).2
  have stacked : Stacked (task :: point.work) point.depth point.canvas.scope.inner.length :=
    sound.stacked
  have bounded : point.depth ≤ limit := sound.bounded
  -- Count and frames are variables in what follows, so that the last task decides the case.
  cases task with
  | nodes | branches | turns => exact ⟨sound.rest trivial, rfl⟩
  | turned =>
      generalize several : point.canvas.scope.inner.length = frames at stacked
      cases stacked with
      | light light _ => exact light.elim
      | turned rest =>
          obtain ⟨scope, length, popped⟩ := popped_eq several
          rw [Task.restore, popped]
          exact ⟨⟨length ▸ rest, bounded, directives⟩, rfl⟩
  | shared next saved =>
      generalize several : point.canvas.scope.inner.length = frames at stacked
      generalize count : point.depth = depth at stacked bounded
      cases stacked with
      | light light _ => exact light.elim
      | shared rest =>
          obtain ⟨scope, length, popped⟩ := popped_eq
            (show { point with depth := saved }.canvas.scope.inner.length = _ from several)
          rw [Task.restore, popped]
          exact ⟨⟨length ▸ rest, Nat.le_of_succ_le bounded, directives⟩, rfl⟩
  | own next saved scope =>
      generalize count : point.depth = depth at stacked bounded
      cases stacked with
      | light light _ => exact light.elim
      | own rest => exact ⟨⟨rest, Nat.le_of_succ_le bounded, directives⟩, rfl⟩

end Point

section

open Point

variable {settings : Settings} {includes : Dictionary (List Node)} {known : String → Prop}
  {point after last : Point} {task : Task}

theorem evaluate_sound (sound : point.Sound settings.options.depth known) (expr : Expr)
    {onwards : Value → Rendering Unit}
    (rest : ∀ value, (point.perform (onwards value)).Sound settings.options.depth known) :
    (point.perform (evaluate settings expr >>= onwards)).Sound settings.options.depth known := by
  cases evaluated : expr.eval settings point.canvas.scope with
  | error failure =>
      rw [perform_evaluate_error evaluated]
      exact sound.fail failure
  | ok value =>
      rw [perform_evaluate evaluated]
      exact rest value

/-- The included templates of these names include only such names again. -/
def ContentsKnown (includes : Dictionary (List Node)) (known : String → Prop) : Prop :=
  ∀ name content, known name → includes.get? name = some content →
    ∀ next ∈ Node.bodyInclusions content, known next.name

theorem enterInclusion_sound (contents : ContentsKnown includes known)
    (sound : point.Sound settings.options.depth known) {name : String} (start : known name)
    (bindings : Option (List (String × Expr))) (position : Option Position) :
    (enterInclusion settings includes point name bindings position).Sound settings.options.depth
      known := by
  rw [enterInclusion]
  cases found : includes.get? name with
  | none => exact sound.fail _
  | some content =>
      have directives := contents name content start found
      by_cases full : settings.options.depth ≤ point.depth
      · simp only [full, if_true]
        exact sound.fail _
      · simp only [full, if_false]
        cases seen : insideScope settings point.canvas.scope bindings with
        | error failure => exact sound.fail failure
        | ok scope =>
            have ended : Stacked (ending point ⟨name, position⟩ bindings :: point.work)
                (point.depth + 1) scope.inner.length := by
              cases bindings with
              | none =>
                  cases seen
                  exact .shared sound.stacked
              | some pairs => exact .own sound.stacked
            have none : ∀ next ∈ (ending point ⟨name, position⟩ bindings).directives,
                known next.name := by
              cases bindings <;> exact List.forall_mem_nil _
            exact ⟨.light trivial ended, Nat.lt_of_not_le full, List.forall_mem_cons.mpr
              ⟨directives, List.forall_mem_cons.mpr ⟨none, sound.directives⟩⟩⟩

theorem loop_sound (sound : point.Sound settings.options.depth known) {targets : List String}
    {iterable : Expr} {content : List Node} {otherwise : Option (List Node)}
    {position : Option Position}
    (inside : ∀ next ∈ Node.bodyInclusions content, known next.name)
    (turnless : ∀ next ∈ Node.optionInclusions otherwise, known next.name) :
    (enter settings includes point (.loop targets iterable content otherwise position)).Sound
      settings.options.depth known := by
  rw [Node.optionInclusions_eq] at turnless
  rw [enter]
  cases iterable.eval settings point.canvas.scope with
  | error failure => exact sound.fail failure
  | ok value =>
      cases iterates : turns? value with
      | none =>
          simp only [iterates]
          exact sound.fail _
      | some turns =>
          cases turns with
          | nil =>
              simp only [iterates]
              exact sound.push (.nodes _) trivial turnless
          | cons turn rest =>
              simp only [iterates]
              cases targets with
              | nil => exact sound.fail _
              | cons target targets => exact sound.push (.turns _ content) trivial inside

theorem enter_sound (contents : ContentsKnown includes known)
    (sound : point.Sound settings.options.depth known) (node : Node)
    (directives : ∀ next ∈ node.inclusions, known next.name) :
    (enter settings includes point node).Sound settings.options.depth known := by
  cases node with
  | text content position => exact sound.perform rfl
  | output expr position =>
      refine evaluate_sound sound expr fun value => ?_
      cases value.hasText with
      | true => exact sound.perform rfl
      | false => exact sound.perform rfl
  | condition test content branches otherwise position =>
      refine sound.push (.branches _ otherwise) trivial fun next member => directives next ?_
      simpa [Task.directives, Node.inclusions, Node.branchesInclusions, Node.branchInclusions]
        using member
  | loop targets iterable content otherwise position =>
      have both := List.forall_mem_append.mp directives
      exact loop_sound sound both.1 both.2
  | binding name value position =>
      refine evaluate_sound sound value fun value => sound.perform ?_
      exact point.canvas.scope.length_inner_set name value
  | block name content position => exact sound.push (.nodes content) trivial directives
  | parent name position => exact sound
  | inclusion name bindings position =>
      exact enterInclusion_sound contents sound (directives _ List.mem_cons_self) bindings position

theorem resume_sound (contents : ContentsKnown includes known)
    (sound : (point.push task).Sound settings.options.depth known) :
    (task.resume settings includes point).Sound settings.options.depth known := by
  have directives := (List.forall_mem_cons.mp sound.directives).1
  cases task with
  | nodes rest =>
      cases rest with
      | nil => exact sound.rest trivial
      | cons node rest =>
          have both := List.forall_mem_append.mp directives
          exact enter_sound contents ((sound.rest trivial).push (.nodes rest) trivial both.2) node
            both.1
  | branches rest otherwise =>
      have both := List.forall_mem_append.mp directives
      cases rest with
      | nil =>
          rw [Node.optionInclusions_eq] at both
          exact (sound.rest trivial).push (.nodes _) trivial both.2
      | cons tested rest =>
          obtain ⟨test, content, position⟩ := tested
          have parts := List.forall_mem_append.mp both.1
          rw [Task.resume]
          split
          case h_1 => exact (sound.rest trivial).fail _
          case h_2 =>
            split
            case isTrue => exact (sound.rest trivial).push (.nodes content) trivial parts.1
            case isFalse =>
              exact (sound.rest trivial).push (.branches rest otherwise) trivial
                (List.forall_mem_append.mpr ⟨parts.2, both.2⟩)
  | turns frames content =>
      cases frames with
      | nil => exact sound.rest trivial
      | cons frame frames =>
          have later := (sound.rest trivial).push (.turns frames content) trivial directives
          have none : ∀ next ∈ Task.turned.directives, known next.name := List.forall_mem_nil _
          exact ⟨.light trivial (.turned later.stacked), sound.bounded, List.forall_mem_cons.mpr
            ⟨directives, List.forall_mem_cons.mpr ⟨none, later.directives⟩⟩⟩
  | turned | shared | own => exact sound.restore.1

/-- A step keeps what holds at a point, and a failure. -/
theorem step_sound (contents : ContentsKnown includes known)
    (sound : point.Sound settings.options.depth known)
    (steps : step settings includes point = some after) :
    after.Sound settings.options.depth known ∧
      ∀ failure, point.outcome = .error failure → after.outcome = .error failure := by
  obtain ⟨work, canvas, depth, outcome⟩ := point
  cases work with
  | nil => cases steps
  | cons task others =>
      cases outcome with
      | ok value =>
          cases steps
          refine ⟨resume_sound contents sound, fun failure failed => ?_⟩
          cases failed
      | error failure =>
          cases steps
          have pushed : (Point.push ⟨others, canvas, depth, .error failure⟩ task).Sound
            settings.options.depth known := sound
          exact ⟨pushed.restore.1, fun other failed => pushed.restore.2.trans failed⟩

theorem reaches_sound (contents : ContentsKnown includes known)
    (sound : point.Sound settings.options.depth known)
    (reached : Reaches settings includes point last) :
    last.Sound settings.options.depth known ∧
      ∀ failure, point.outcome = .error failure → last.outcome = .error failure := by
  induction reached with
  | refl => exact ⟨sound, fun _ failed => failed⟩
  | tail _ steps ih =>
      obtain ⟨middle, failing⟩ := ih
      obtain ⟨next, failed⟩ := step_sound contents middle steps
      exact ⟨next, fun failure first => failed failure (failing failure first)⟩

theorem start_sound {resolved : Resolved}
    (start : ∀ next ∈ Node.bodyInclusions resolved.body, known next.name) (limit : Nat)
    (scope : Scope) : (Point.start resolved scope).Sound limit known where
  stacked := .light trivial (.nil _)
  bounded := Nat.zero_le _
  directives := List.forall_mem_singleton.mpr start

end

/-- Nothing has failed so far, and the next thing to do is a directive that includes a template. -/
structure Point.Includes (point : Point) (name : String) (bindings : Option (List (String × Expr)))
    (position : Option Position) (rest : List Node) (others : List Task) : Prop where
  fine : point.outcome = .ok ()
  work : point.work = .nodes (.inclusion name bindings position :: rest) :: others

/-- The point behind a directive, in which nothing has been done for it. -/
def Point.behind (point : Point) (rest : List Node) (others : List Task) : Point :=
  { point with work := .nodes rest :: others }

/-- How a rendering includes templates, at each of its points. -/
structure BoundsInclusions (settings : Settings) (resolved : Resolved) (scope : Scope) : Prop where
  /-- The count is the number of inclusions around, which is at most the limit. -/
  counted : ∀ point, Reached settings resolved scope point →
    point.depth = point.enclosing.length ∧ point.enclosing.length ≤ settings.options.depth
  /-- Within fewer inclusions than the limit, a directive goes on with the template that it
  includes, unless a binding fails. -/
  entered : ∀ point, Reached settings resolved scope point →
    ∀ name bindings position rest others, point.Includes name bindings position rest others →
      point.enclosing.length < settings.options.depth →
      ∃ content, resolved.includes.get? name = some content ∧
        step settings resolved.includes point =
          match insideScope settings point.canvas.scope bindings with
          | .error failure => some ((point.behind rest others).fail failure)
          | .ok inner => some { point with
              work := .nodes content :: ending point ⟨name, position⟩ bindings ::
                .nodes rest :: others
              canvas := { point.canvas with scope := inner }
              depth := point.depth + 1 }
  /-- Within as many as the limit it fails in its place, and the rendering with it. -/
  refused : ∀ point, Reached settings resolved scope point →
    ∀ name bindings position rest others, point.Includes name bindings position rest others →
      point.enclosing.length = settings.options.depth →
      let failure : Failure := .blamed (.tooDeep settings.options.depth) position
      step settings resolved.includes point = some ((point.behind rest others).fail failure) ∧
        (resolved.renderIn settings scope).1 = .error (resolved.quoteSource failure)
  /-- Every directive comes to its end, where all is as if it had been rendered at once. Count and
  scope are then what they were before it, whether it has failed or not. -/
  restored : ∀ point, Reached settings resolved scope point →
    ∀ name bindings position rest others, point.Includes name bindings position rest others →
      ∃ last, Reaches settings resolved.includes point last ∧ last.work = .nodes rest :: others ∧
        insertion settings resolved.includes (settings.options.depth - point.depth) name bindings
          position point.canvas = (last.outcome, last.canvas) ∧
        last.depth = point.depth ∧ last.canvas.scope = point.canvas.scope
  /-- There is a last point, which every other one comes to. -/
  ends : ∃ last, step settings resolved.includes last = none ∧ last.depth = 0 ∧
    whole settings resolved { scope := scope } = (last.outcome, last.canvas) ∧
    Reached settings resolved scope last ∧
    ∀ point, Reached settings resolved scope point → Reaches settings resolved.includes point last

theorem Point.Includes.step_eq {settings : Settings} {includes : Dictionary (List Node)}
    {point : Point} {name : String} {bindings : Option (List (String × Expr))}
    {position : Option Position} {rest : List Node} {others : List Task}
    (directive : point.Includes name bindings position rest others) :
    step settings includes point =
      some (enterInclusion settings includes (point.behind rest others) name bindings
        position) := by
  obtain ⟨work, canvas, depth, outcome⟩ := point
  obtain ⟨rfl, rfl⟩ := directive
  rfl

section

variable {settings : Settings} {resolved : Resolved} {scope : Scope} {point : Point}
  {name : String} {bindings : Option (List (String × Expr))} {position : Option Position}
  {rest : List Node} {others : List Task}

theorem contents_of_closed (closed : Resolver.Closed resolved.body resolved.includes
    {name | resolved.includes.has name = true}) :
    ContentsKnown resolved.includes fun name => resolved.includes.has name = true :=
  fun name content known found _ among =>
    closed.2 name known content found _ (Node.includes_of_mem among)

/-- Every point of a rendering is sound, if the includes are closed. -/
theorem sound_of_closed (closed : Resolver.Closed resolved.body resolved.includes
    {name | resolved.includes.has name = true})
    (reached : Reached settings resolved scope point) :
    point.Sound settings.options.depth fun name => resolved.includes.has name = true :=
  (reaches_sound (contents_of_closed closed)
    (start_sound (fun _ among => closed.1 _ (Node.includes_of_mem among)) _ scope) reached).1

theorem Point.Sound.counted {limit : Nat} {known : String → Prop}
    (sound : point.Sound limit known) :
    point.depth = point.enclosing.length ∧ point.enclosing.length ≤ limit := by
  have count : point.depth = point.enclosing.length := sound.stacked.depth_eq
  exact ⟨count, count ▸ sound.bounded⟩

theorem Point.Sound.found {limit : Nat}
    (sound : point.Sound limit fun name => resolved.includes.has name = true)
    (directive : point.Includes name bindings position rest others) :
    ∃ content, resolved.includes.get? name = some content := by
  have among : Task.nodes (.inclusion name bindings position :: rest) ∈ point.work := by
    rw [directive.work]
    exact List.mem_cons_self
  have known := sound.directives _ among ⟨name, position⟩ List.mem_cons_self
  rwa [Dictionary.has_eq_isSome, Option.isSome_iff_exists] at known

theorem entered_of_found {content : List Node} (found : resolved.includes.get? name = some content)
    (directive : point.Includes name bindings position rest others)
    (room : point.depth < settings.options.depth) :
    step settings resolved.includes point =
      match insideScope settings point.canvas.scope bindings with
      | .error failure => some ((point.behind rest others).fail failure)
      | .ok inner => some { point with
          work := .nodes content :: ending point ⟨name, position⟩ bindings :: .nodes rest :: others
          canvas := { point.canvas with scope := inner }
          depth := point.depth + 1 } := by
  have below : ¬ settings.options.depth ≤ (point.behind rest others).depth := Nat.not_le_of_lt room
  rw [directive.step_eq, enterInclusion, found]
  simp only [below, if_false]
  show some (match insideScope settings point.canvas.scope bindings with
    | .error failure => (point.behind rest others).fail failure
    | .ok inner => _) = _
  cases insideScope settings point.canvas.scope bindings <;> rfl

theorem refused_of_found {content : List Node} (found : resolved.includes.get? name = some content)
    (directive : point.Includes name bindings position rest others)
    (full : point.depth = settings.options.depth) :
    step settings resolved.includes point = some ((point.behind rest others).fail
      (.blamed (.tooDeep settings.options.depth) position)) := by
  have reached : settings.options.depth ≤ (point.behind rest others).depth := full.ge
  rw [directive.step_eq, enterInclusion, found]
  simp only [reached, if_true]

/-- A failure at any point is what the rendering ends with. -/
theorem fails_of_reached (closed : Resolver.Closed resolved.body resolved.includes
      {name | resolved.includes.has name = true})
    (reached : Reached settings resolved scope point)
    {failure : Failure} (failed : point.outcome = .error failure) :
    (resolved.renderIn settings scope).1 = .error (resolved.quoteSource failure) := by
  have onwards := reaches_last (whole_reaches settings resolved scope) rfl reached
  have last : (whole settings resolved { scope := scope }).1 = .error failure :=
    (reaches_sound (contents_of_closed closed) (sound_of_closed closed reached) onwards).2 _ failed
  cases ran : whole settings resolved { scope := scope } with
  | mk outcome canvas =>
      rw [ran] at last
      obtain rfl : outcome = .error failure := last
      simp only [Resolved.renderIn, ExceptT.run, ran]

theorem restored_of_bounded (directive : point.Includes name bindings position rest others)
    (bounded : point.depth ≤ settings.options.depth) :
    ∃ last, Reaches settings resolved.includes point last ∧ last.work = .nodes rest :: others ∧
      insertion settings resolved.includes (settings.options.depth - point.depth) name bindings
        position point.canvas = (last.outcome, last.canvas) ∧
      last.depth = point.depth ∧ last.canvas.scope = point.canvas.scope := by
  have inserts : InsertionReaches settings resolved.includes point.depth
      (insertion settings resolved.includes (settings.options.depth - point.depth)) :=
    insertion_reaches (Nat.add_sub_of_le bounded)
  have confined := insertion_scope settings resolved.includes
    (settings.options.depth - point.depth) [⟨name, position⟩] ⟨name, position⟩ List.mem_cons_self
    bindings position
  have rendered := inserts (point.behind rest others) rfl directive.fine name bindings position
  exact ⟨_, reaches_of_step directive.step_eq rendered, rfl, rfl, rfl,
    (confined.scope point.canvas _ _ rfl).eq_of_nil⟩

end

end Rendering

namespace Resolved

open Rendering

/-- However its templates include each other and themselves, a rendering counts the inclusions in
which it is, renders one only within fewer than the limit, and comes to an end. -/
theorem bounds_inclusions (settings : Settings) (resolved : Resolved)
    (closed : Resolver.Closed resolved.body resolved.includes
      {name | resolved.includes.has name = true}) (scope : Scope) :
    BoundsInclusions settings resolved scope where
  counted point reached := (sound_of_closed closed reached).counted
  entered point reached name bindings position rest others directive fewer := by
    have sound := sound_of_closed closed reached
    obtain ⟨content, found⟩ := sound.found directive
    rw [← sound.counted.1] at fewer
    exact ⟨content, found, entered_of_found found directive fewer⟩
  refused point reached name bindings position rest others directive full := by
    have sound := sound_of_closed closed reached
    obtain ⟨content, found⟩ := sound.found directive
    rw [← sound.counted.1] at full
    have steps := refused_of_found found directive full
    exact ⟨steps, fails_of_reached closed (reached.tail steps) rfl⟩
  restored point reached _ _ _ _ _ directive :=
    restored_of_bounded directive (sound_of_closed closed reached).bounded
  ends := ⟨_, rfl, rfl, rfl, whole_reaches settings resolved scope, fun _ reached =>
    reaches_last (whole_reaches settings resolved scope) rfl reached⟩

/-- Each turn of a loop includes the template that the loop stands in, with and without bindings. -/
def treePage : Resolved where
  name := "page"
  body := [.inclusion "tree" none none]
  includes := [("tree", [.loop ["leaf"] (.list [.literal .null none] none)
    [.inclusion "tree" none none,
      .inclusion "tree" (some [("leaf", .reference "leaf" [] none)]) none] none none])]

theorem bounds_inclusions_tree :
    Resolver.Closed treePage.body treePage.includes {name | treePage.includes.has name = true} ∧
      BoundsInclusions { options := { depth := 3 } } treePage {} ∧
      (treePage.renderIn { options := { depth := 3 } } {}).1 =
        .error (.blamed (.tooDeep 3) none) := by
  have first : ∀ found ∈ Node.bodyInclusions treePage.body, found.name = "tree" := by decide
  have again : ∀ content, treePage.includes.get? "tree" = some content →
      ∀ found ∈ Node.bodyInclusions content, found.name = "tree" := by
    intro content found
    cases found
    decide
  have closed : Resolver.Closed treePage.body treePage.includes
      {name | treePage.includes.has name = true} := by
    constructor
    · intro name includes
      obtain ⟨found, member, rfl⟩ := includes.mem
      rw [first found member]
      rfl
    · intro name has content found other includes
      have named : name ∈ treePage.includes.names :=
        (Dictionary.has_iff_mem_names _ name).mp has
      obtain rfl : name = "tree" := List.mem_singleton.mp named
      obtain ⟨next, member, rfl⟩ := includes.mem
      rw [again content found next member]
      rfl
  exact ⟨closed, bounds_inclusions _ treePage closed {}, rfl⟩

end Resolved

end Templating
