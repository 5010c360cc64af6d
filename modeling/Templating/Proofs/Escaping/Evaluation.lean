import Templating.Evaluation
import Templating.Proofs.Escaping.Filters
import Templating.Proofs.Every

/-!
In a tame scope every expression has a tame value, if its literals are tame and the filters that it
applies keep values tame.
-/

namespace Templating

open Outcome

namespace Scope

/-- Every value in the scope satisfies the condition. -/
def Each (holds : Value → Prop) (scope : Scope) : Prop :=
  ∀ frame ∈ scope.frames, Dictionary.Each holds frame

variable {holds : Value → Prop} {scope : Scope}

theorem each_iff : scope.Each holds ↔
    (∀ frame ∈ scope.inner, Dictionary.Each holds frame) ∧ Dictionary.Each holds scope.root := by
  unfold Each frames
  rw [List.forall_mem_append, List.forall_mem_singleton]

theorem Each.ofFrame {frame : Frame} (each : Dictionary.Each holds frame) :
    (ofFrame frame).Each holds :=
  each_iff.mpr ⟨List.forall_mem_nil _, each⟩

theorem Each.lookup? (each : scope.Each holds) {name : String} {value : Value}
    (found : scope.lookup? name = some value) : holds value := by
  obtain ⟨frame, member, known⟩ := List.exists_of_findSome?_eq_some found
  exact (each frame member).get? known

theorem Each.set (each : scope.Each holds) (name : String) {value : Value} (good : holds value) :
    (scope.set name value).Each holds := by
  obtain ⟨root, inner⟩ := scope
  rw [each_iff] at each
  cases inner with
  | nil => exact each_iff.mpr ⟨List.forall_mem_nil _, each.2.set name good⟩
  | cons frame rest =>
      obtain ⟨first, others⟩ := List.forall_mem_cons.mp each.1
      exact each_iff.mpr ⟨List.forall_mem_cons.mpr ⟨first.set name good, others⟩, each.2⟩

theorem Each.push (each : scope.Each holds) {frame : Frame} (new : Dictionary.Each holds frame) :
    (scope.push frame).Each holds := by
  rw [each_iff] at each
  exact each_iff.mpr ⟨List.forall_mem_cons.mpr ⟨new, each.1⟩, each.2⟩

theorem Each.pop? (each : scope.Each holds) {outer : Scope} (popped : scope.pop? = some outer) :
    outer.Each holds := by
  obtain ⟨root, inner⟩ := scope
  rw [each_iff] at each
  cases inner with
  | nil => cases popped
  | cons frame rest =>
      cases popped
      exact each_iff.mpr ⟨(List.forall_mem_cons.mp each.1).2, each.2⟩

end Scope

namespace Value

theorem member?_tame {value member : Value} {segment : Segment} (tame : value.Tame)
    (found : value.member? segment = some member) : member.Tame := by
  unfold member? at found
  split at found
  · obtain ⟨entry, first, rfl⟩ := Option.map_eq_some_iff.mp found
    exact (entriesEach_iff.mp tame entry (List.mem_of_find?_eq_some first)).2
  · split at found
    · exact tame_sequence.mp tame member (List.mem_of_getElem? found)
    · cases found
  · cases found

theorem follow_gives {value : Value} {taken path : List Segment} (tame : value.Tame) :
    Gives (value.follow taken path) Tame := by
  induction path generalizing value taken with
  | nil => exact Gives.ok tame
  | cons segment rest ih =>
      rw [follow]
      cases found : value.member? segment with
      | some next => exact ih (member?_tame tame found)
      | none => exact Gives.error

theorem arithmetic_gives (operator : Arithmetic) {left right : Value} (tameLeft : left.Tame)
    (tameRight : right.Tame) : Gives (arithmetic operator left right) Tame := by
  have number : ∀ result : Option Number, Gives (ofNumber? result) Tame := by
    intro result
    cases result with
    | some value => exact Gives.ok trivial
    | none => exact Gives.error
  unfold arithmetic
  split
  · unfold numeric
    repeat' split
    all_goals first | exact number _ | exact Gives.error
  · exact Gives.ok (tame_ordinary _)
  · apply Gives.ok
    rw [tame_list, List.forall_mem_append]
    exact ⟨tame_sequence.mp tameLeft, tame_sequence.mp tameRight⟩
  · exact Gives.error

end Value

namespace Expr

theorem missing_gives (mode : UndefinedMode) (name : String) (path : List Segment)
    (position : Option Position) : Gives (missing mode name path position) Value.Tame := by
  cases mode with
  | lenient => exact Gives.ok trivial
  | strict => exact Gives.error

theorem evalReference_gives (mode : UndefinedMode) {scope : Scope} (tame : scope.Each Value.Tame)
    (name : String) (path : List Segment) (position : Option Position) :
    Gives (evalReference mode scope name path position) Value.Tame := by
  unfold evalReference
  split
  case h_1 => exact missing_gives mode name [] position
  case h_2 value known =>
    split
    case h_1 result found =>
      exact Gives.ok (Value.follow_gives (tame.lookup? known) result found)
    case h_2 taken _ => exact missing_gives mode name taken position

theorem evalBinary_gives (operator : BinaryOperator) {left right : Value} (tameLeft : left.Tame)
    (tameRight : right.Tame) (position : Option Position) :
    Gives (evalBinary operator left right position) Value.Tame := by
  cases operator with
  | equal => exact Gives.ok trivial
  | unequal => exact Gives.ok trivial
  | compare comparison =>
      cases found : Value.compare comparison left right with
      | ok value =>
          simp only [evalBinary, found]
          exact Gives.ok trivial
      | error cause =>
          simp only [evalBinary, found]
          exact Gives.error
  | member =>
      cases found : right.contains left with
      | ok value =>
          simp only [evalBinary, found]
          exact Gives.ok trivial
      | error cause =>
          simp only [evalBinary, found]
          exact Gives.error
  | arithmetic operator =>
      have arithmetic := Value.arithmetic_gives operator tameLeft tameRight
      cases found : Value.arithmetic operator left right with
      | ok value =>
          simp only [evalBinary, found]
          exact Gives.ok (arithmetic value found)
      | error failure =>
          simp only [evalBinary, found]
          exact Gives.error
  | and => exact Gives.error
  | or => exact Gives.error
  | unknown symbol => exact Gives.error

theorem evalUnary_gives (operator : UnaryOperator) (operand : Value) (position : Option Position) :
    Gives (evalUnary operator operand position) Value.Tame := by
  cases operator with
  | not => exact Gives.ok trivial
  | negate =>
      cases operand with
      | number value => exact Gives.ok trivial
      | _ => exact Gives.error
  | unknown symbol => exact Gives.error

theorem applyFilter_gives {filter : Filter} (keeps : filter.Tame) (name : String) {value : Value}
    {positional : List Value} {named : Dictionary Value} (tameValue : value.Tame)
    (tamePositional : ∀ value ∈ positional, value.Tame)
    (tameNamed : Dictionary.Each Value.Tame named) (position : Option Position) :
    Gives (applyFilter filter name value positional named position) Value.Tame := by
  unfold applyFilter
  cases found : filter.apply name value positional named with
  | ok result => exact Gives.ok (keeps.apply tameValue tamePositional tameNamed result found)
  | error failure => exact Gives.error

section

variable {settings : Settings} {scope : Scope} {allowed : String → Prop}

mutual

theorem eval_gives
    (keeps : ∀ name filter, allowed name → settings.filters.find? name = some filter → filter.Tame)
    (tame : scope.Each Value.Tame) :
    ∀ expr : Expr, expr.Every Value.Tame allowed → Gives (expr.eval settings scope) Value.Tame
  | .literal _ _, every => Gives.ok every
  | .reference name path position, _ => evalReference_gives _ tame name path position
  | .list items _, every => by
    rw [eval]
    refine Gives.bind (evalAll_gives keeps tame items every) fun values each => ?_
    exact Gives.ok (Value.tame_list.mpr each)
  | .binary operator left right position, every => by
    have first := eval_gives keeps tame left every.1
    have second := eval_gives keeps tame right every.2
    cases operator with
    | and =>
        rw [eval]
        refine Gives.bind first fun value tameValue => ?_
        split
        · exact second
        · exact Gives.ok tameValue
    | or =>
        rw [eval]
        refine Gives.bind first fun value tameValue => ?_
        split
        · exact Gives.ok tameValue
        · exact second
    | equal | unequal | member | compare | arithmetic | unknown =>
        rw [eval]
        · refine Gives.bind first fun value tameValue => ?_
          refine Gives.bind second fun other tameOther => ?_
          exact evalBinary_gives _ tameValue tameOther position
        all_goals
          intro same
          cases same
  | .unary operator operand position, _ => by
    rw [eval]
    exact Gives.anyBind fun value => evalUnary_gives operator value position
  | .filter base name arguments named position, every => by
    rw [eval]
    cases found : settings.filters.find? name with
    | none => exact Gives.error
    | some filter =>
        refine Gives.bind (eval_gives keeps tame base every.2.1) fun value tameValue => ?_
        refine Gives.bind (evalAll_gives keeps tame arguments every.2.2.1)
          fun positional tamePositional => ?_
        refine Gives.bind (evalNamed_gives keeps tame named every.2.2.2) fun pairs tameNamed => ?_
        exact applyFilter_gives (keeps name filter every.1 found) name tameValue tamePositional
          (Dictionary.Each.ofList tameNamed) position

theorem evalAll_gives
    (keeps : ∀ name filter, allowed name → settings.filters.find? name = some filter → filter.Tame)
    (tame : scope.Each Value.Tame) :
    ∀ items : List Expr, AllEvery Value.Tame allowed items →
      Gives (evalAll settings scope items) fun values => ∀ value ∈ values, value.Tame
  | [], _ => Gives.ok (List.forall_mem_nil _)
  | item :: items, every => by
    rw [evalAll]
    refine Gives.bind (eval_gives keeps tame item every.1) fun value tameValue => ?_
    refine Gives.bind (evalAll_gives keeps tame items every.2) fun values each => ?_
    exact Gives.ok (List.forall_mem_cons.mpr ⟨tameValue, each⟩)

theorem evalNamed_gives
    (keeps : ∀ name filter, allowed name → settings.filters.find? name = some filter → filter.Tame)
    (tame : scope.Each Value.Tame) :
    ∀ named : List (String × Expr), NamedEvery Value.Tame allowed named →
      Gives (evalNamed settings scope named) (Dictionary.Each Value.Tame)
  | [], _ => Gives.ok .nil
  | (name, value) :: rest, every => by
    rw [evalNamed]
    refine Gives.bind (eval_gives keeps tame value every.1) fun first tameFirst => ?_
    refine Gives.bind (evalNamed_gives keeps tame rest every.2) fun others each => ?_
    exact Gives.ok (List.forall_mem_cons.mpr ⟨tameFirst, each⟩)

end

end

end Expr

end Templating
