import Templating.Proofs.Dictionary
import Templating.Proofs.Rendering.Appends

/-!
The turns of a loop are independent: each one is rendered as if it were alone, in the scope around the
loop under the frame of the turn, and what the turns write is put one behind the other.
-/

namespace Templating

namespace Value

/-- How many turns a loop over the value has. -/
def turnCount : Value → Nat
  | mapping entries => entries.length
  | sequence _ items => items.length
  | _ => 0

/-- What a loop binds in one of its turns: with one target, and with two. -/
def turnAt? : Value → Nat → Option (Value × Value × Value)
  | mapping entries, index =>
    entries[index]?.map fun entry => (entry.1.toValue, entry.1.toValue, entry.2)
  | sequence _ items, index => items[index]?.map fun item => (item, .int index, item)
  | _, _ => none

end Value

namespace Rendering

theorem turns?_of_turnCount {value : Value} (several : 0 < value.turnCount) :
    ∃ first rest, turns? value = some (first :: rest) ∧
      (first :: rest).length = value.turnCount ∧
      ∀ index, (first :: rest)[index]? = value.turnAt? index := by
  have iterates : ∃ turns, turns? value = some turns ∧ turns.length = value.turnCount ∧
      ∀ index, turns[index]? = value.turnAt? index := by
    cases value with
    | mapping entries => exact ⟨_, rfl, by simp [Value.turnCount], by simp [Value.turnAt?]⟩
    | sequence kind items => exact ⟨_, rfl, by simp [Value.turnCount], by simp [Value.turnAt?]⟩
    | null | bool | number | string | host => simp [Value.turnCount] at several
  obtain ⟨turns, same, length, entries⟩ := iterates
  cases turns with
  | nil => simp [← length] at several
  | cons first rest => exact ⟨first, rest, same, length, entries⟩

/-- What a name means by the targets of a loop. The second target hides the first one. -/
def targetMeaning (targets : List String) (turn : Value × Value × Value) (name : String) :
    Option Value :=
  match targets with
  | [first, second] =>
    if name = second then some turn.2.2 else if name = first then some turn.2.1 else none
  | first :: _ => if name = first then some turn.1 else none
  | [] => none

theorem get?_turnFrame (targets : List String) (length index : Nat)
    (turn : Value × Value × Value) (name : String) :
    Dictionary.get? (turnFrame targets length index turn) name =
      (targetMeaning targets turn name).or
        (if name = "loop" then some (loopRecord index length) else none) := by
  have record : Dictionary.get? [("loop", loopRecord index length)] name =
      if name = "loop" then some (loopRecord index length) else none := by
    rw [Dictionary.get?_cons]
    exact if_congr eq_comm rfl rfl
  rcases targets with _ | ⟨first, _ | ⟨second, _ | ⟨third, rest⟩⟩⟩ <;>
    simp only [turnFrame, targetMeaning, Dictionary.get?_set, record] <;>
    split_ifs <;> rfl

/-- The frame of a turn holds what the targets bind and, unless a target hides it, what the loop tells
about the turn. It holds nothing else. -/
def IsTurnFrame (targets : List String) (value : Value) (index : Nat) (frame : Frame) : Prop :=
  ∃ turn, value.turnAt? index = some turn ∧ ∀ name,
    Dictionary.get? frame name = (targetMeaning targets turn name).or
      (if name = "loop" then
        some (.mapping [
          (.string "index" false, .int index),
          (.string "is_first" false, .bool (decide (index = 0))),
          (.string "is_last" false, .bool (decide (index + 1 = value.turnCount))),
          (.string "length" false, .int value.turnCount)])
      else none)

/-- A rendering by itself: in a scope under a frame, with nothing written before. -/
def alone (inside : Rendering Unit) (scope : Scope) (frame : Frame) :
    Except Failure Unit × Canvas :=
  inside { scope := scope.push frame }

/-- What renderings that know nothing of each other come to, one after the other: all that they write
if none fails, and else the first failure and what was written up to it. -/
structure Together (turn : Frame → Except Failure Unit × Canvas) (frames : List Frame)
    (outcome : Except Failure Unit) (text : String) : Prop where
  succeeds : (∀ frame ∈ frames, (turn frame).1 = .ok ()) →
    outcome = .ok () ∧ text = String.join (frames.map fun frame => (turn frame).2.output)
  fails : ∀ earlier frame later failure, frames = earlier ++ frame :: later →
    (∀ other ∈ earlier, (turn other).1 = .ok ()) → (turn frame).1 = .error failure →
    outcome = .error failure ∧ text =
      String.join (earlier.map fun other => (turn other).2.output) ++ (turn frame).2.output

namespace Together

variable {turn : Frame → Except Failure Unit × Canvas} {frame : Frame} {rest : List Frame}
  {outcome : Except Failure Unit} {text : String} {after : Canvas}

theorem nil : Together turn [] (.ok ()) "" where
  succeeds _ := ⟨rfl, rfl⟩
  fails earlier frame later failure split := by simp at split

theorem failing {failure : Failure} (failed : turn frame = (.error failure, after)) :
    Together turn (frame :: rest) (.error failure) after.output where
  succeeds all := by
    have fine := all frame List.mem_cons_self
    simp [failed] at fine
  fails earlier other later cause split fine fault := by
    cases earlier with
    | nil =>
        cases split
        rw [failed] at fault ⊢
        cases fault
        simp
    | cons first others =>
        cases split
        have wrong := fine frame List.mem_cons_self
        simp [failed] at wrong

theorem cons (ended : turn frame = (.ok (), after)) (together : Together turn rest outcome text) :
    Together turn (frame :: rest) outcome (after.output ++ text) where
  succeeds all := by
    obtain ⟨_, others⟩ := List.forall_mem_cons.mp all
    obtain ⟨rfl, rfl⟩ := together.succeeds others
    simp [ended]
  fails earlier other later failure split fine fault := by
    cases earlier with
    | nil =>
        cases split
        simp [ended] at fault
    | cons first others =>
        cases split
        obtain ⟨_, fineOthers⟩ := List.forall_mem_cons.mp fine
        obtain ⟨rfl, rfl⟩ := together.fails others other later failure rfl fineOthers fault
        simp [ended, String.append_assoc]

end Together

/-- Under frames that are taken away again, each rendering starts from the same scope. -/
theorem forM_within {names : List String} {allowed : Failure → Prop} {inside : Rendering Unit}
    (confined : Confined names allowed inside) (appends : Appends inside) (frames : List Frame)
    (canvas : Canvas) :
    ∃ outcome text,
      (frames.forM fun frame => within frame inside) canvas =
        (outcome, { canvas with output := canvas.output ++ text }) ∧
      Together (alone inside canvas.scope) frames outcome text := by
  induction frames generalizing canvas with
  | nil => exact ⟨.ok (), "", by simp; rfl, .nil⟩
  | cons frame rest ih =>
      cases ended : alone inside canvas.scope frame with
      | mk outcome after =>
          have inner : inside { canvas with scope := canvas.scope.push frame } =
              (outcome, after.behind canvas.output) := by
            rw [← Canvas.behind_empty { canvas with scope := canvas.scope.push frame }]
            exact appends.run_eq ended
          have step := confined.within_run inner
          cases outcome with
          | error failure =>
              exact ⟨.error failure, after.output, Run.bind_error step, .failing ended⟩
          | ok value =>
              obtain ⟨outcome, text, ran, together⟩ :=
                ih { canvas with output := canvas.output ++ after.output }
              refine ⟨outcome, after.output ++ text, ?_, .cons ended together⟩
              show (within frame inside >>= fun _ => rest.forM _) canvas = _
              rw [Run.bind_ok step, Canvas.output_behind, ran, String.append_assoc]

section

variable {settings : Settings} {insert : Insertion} {canvas : Canvas} {targets : List String}
  {iterable : Expr} {content : List Node} {otherwise : Option (List Node)}
  {position : Option Position} {value : Value} {first : Value × Value × Value}
  {rest : List (Value × Value × Value)}

/-- A loop with turns renders its body under each of their frames; it needs a target for that. -/
theorem loop_eq (evaluated : iterable.eval settings canvas.scope = .ok value)
    (iterates : turns? value = some (first :: rest)) :
    Rendering.node settings insert (.loop targets iterable content otherwise position) canvas =
      if targets = [] then (.error .noTarget, canvas)
      else ((turnFrames targets (first :: rest)).forM fun frame =>
        within frame (body settings insert content)) canvas := by
  have start : evaluate settings iterable canvas = (.ok value, canvas) := by
    rw [evaluate_eq, evaluated]
  rw [Rendering.node, Run.bind_ok start, iterates]
  cases targets <;> rfl

end

/-- If its iterable has turns, a loop is rendered as its body is rendered by itself for each of them, in
the scope around the loop under the frame of the turn. Afterwards that scope is what it was. -/
theorem loop_independent {settings : Settings} {includes : Dictionary (List Node)} {left : Nat}
    {canvas : Canvas} {targets : List String} {iterable : Expr} {content : List Node}
    {otherwise : Option (List Node)} {position : Option Position} {value : Value}
    (evaluated : iterable.eval settings canvas.scope = .ok value) (several : 0 < value.turnCount) :
    let loop := Rendering.node settings (insertion settings includes left)
      (.loop targets iterable content otherwise position)
    let inside := body settings (insertion settings includes left) content
    (targets = [] → loop canvas = (.error .noTarget, canvas)) ∧
      (targets ≠ [] → ∃ frames outcome text, frames.length = value.turnCount ∧
        (∀ index frame, frames[index]? = some frame → IsTurnFrame targets value index frame) ∧
        loop canvas = (outcome, { canvas with output := canvas.output ++ text }) ∧
        Together (alone inside canvas.scope) frames outcome text) := by
  intro loop inside
  obtain ⟨first, rest, iterates, length, entries⟩ := turns?_of_turnCount several
  have entered : loop canvas = if targets = [] then (.error .noTarget, canvas)
      else ((turnFrames targets (first :: rest)).forM fun frame => within frame inside) canvas :=
    loop_eq evaluated iterates
  refine ⟨fun none => entered.trans (if_pos none), fun named => ?_⟩
  rw [if_neg named] at entered
  have confined : Confined (Node.boundBody true content) (· ≠ .noScope) inside :=
    body_confined ne_noScope_of_isLocal content (insertion_scope settings includes left _)
  have appends : Appends inside := body_appends (insertion_appends settings includes left) content
  obtain ⟨outcome, text, ran, together⟩ :=
    forM_within confined appends (turnFrames targets (first :: rest)) canvas
  refine ⟨turnFrames targets (first :: rest), outcome, text, ?_, ?_, entered.trans ran, together⟩
  · rw [turnFrames, List.length_mapIdx, length]
  · intro index frame found
    rw [turnFrames, List.getElem?_mapIdx, entries, length] at found
    obtain ⟨turn, known, rfl⟩ := Option.map_eq_some_iff.mp found
    exact ⟨turn, known, get?_turnFrame targets _ index turn⟩

/-- A body that adds to a total and shows it. -/
def addPrice : List Node := [
  .binding "total" (.binary (.arithmetic .add) (.reference "total" [] none)
    (.reference "price" [] none) none) none,
  .output (.reference "total" [] none) none]

/-- Every turn adds its price to the total around the loop. -/
theorem loop_independent_totals :
    let canvas : Canvas :=
      { scope := .ofFrame [("total", .int 10), ("prices", .list [.int 1, .int 2])], output := "=" }
    let iterable : Expr := .reference "prices" [] none
    let value : Value := .list [.int 1, .int 2]
    iterable.eval {} canvas.scope = .ok value ∧ 0 < value.turnCount ∧
      ∃ frames, frames.length = 2 ∧
        (∀ index frame, frames[index]? = some frame → IsTurnFrame ["price"] value index frame) ∧
        Rendering.node {} (insertion {} [] 1) (.loop ["price"] iterable addPrice none none) canvas =
          (.ok (), { canvas with output := "=1112" }) ∧
        Together (alone (body {} (insertion {} [] 1) addPrice) canvas.scope) frames (.ok ())
          "1112" := by
  intro canvas iterable value
  have evaluated : iterable.eval {} canvas.scope = .ok value := rfl
  have several : 0 < value.turnCount := by decide
  have written : Rendering.node {} (insertion {} [] 1)
      (.loop ["price"] iterable addPrice none none) canvas =
        (.ok (), { canvas with output := "=" ++ "1112" }) := rfl
  obtain ⟨frames, outcome, text, length, turns, ran, together⟩ :=
    (loop_independent evaluated several).2 (List.cons_ne_nil "price" [])
  rw [written] at ran
  obtain ⟨rfl, same⟩ := Prod.mk.inj ran
  have output : "=" ++ "1112" = "=" ++ text := congrArg Canvas.output same
  obtain rfl : "1112" = text := by simpa [← String.toList_inj] using output
  exact ⟨evaluated, several, frames, length, turns, written, together⟩

end Rendering

end Templating
