import Templating.Filter.Registry
import Templating.Proofs.Dictionary
import Templating.Proofs.Outcome
import Templating.Proofs.Sorting
import Templating.Proofs.Value.Strings

/-!
From tame values every built-in filter gives tame values, but for the one that declares any text
safe. A filter that gives text makes a string that is not safe, or escapes it; the others pass on
parts of what they are given.
-/

namespace Templating

/-- All arguments are tame. -/
structure Bound.Tame (bound : Bound) : Prop where
  values : Dictionary.Each Value.Tame bound.values
  rest : ∀ value ∈ bound.rest, value.Tame
  restNamed : Dictionary.Each Value.Tame bound.restNamed

namespace Bound

theorem Tame.value {bound : Bound} (tame : bound.Tame) (name : String) : (bound.value name).Tame := by
  unfold Bound.value
  cases found : bound.values.lookup name with
  | none => exact trivial
  | some value => exact tame.values.get? found

theorem Tame.bind {bound : Bound} (tame : bound.Tame) (name : String) {value : Value}
    (tameNew : value.Tame) : (bound.bind name value).Tame :=
  ⟨List.forall_mem_append.mpr ⟨tame.values, List.forall_mem_singleton.mpr tameNew⟩, tame.rest,
    tame.restNamed⟩

end Bound

namespace Signature

open Outcome

/-- The values that stand in for missing arguments are tame. -/
def Tame (signature : Signature) : Prop :=
  ∀ parameter ∈ signature, ∀ value ∈ parameter.fallback, value.Tame

theorem bindPositional_gives (named : List (String × Value)) {parameters : List Parameter}
    {arguments : List Value} {bound : Bound} (signature : Tame parameters)
    (tameArguments : ∀ value ∈ arguments, value.Tame) (tame : bound.Tame) :
    Gives (bindPositional named parameters arguments bound) fun result =>
      result.1.Tame ∧ Tame result.2 := by
  induction parameters generalizing arguments bound with
  | nil =>
      cases arguments with
      | nil => exact Gives.ok ⟨tame, signature⟩
      | cons => exact Gives.error
  | cons parameter parameters ih =>
      obtain ⟨_, others⟩ := List.forall_mem_cons.mp signature
      cases arguments with
      | nil => exact Gives.ok ⟨tame, signature⟩
      | cons argument arguments =>
          obtain ⟨tameFirst, tameRest⟩ := List.forall_mem_cons.mp tameArguments
          rw [bindPositional]
          cases parameter.kind with
          | namedOnly => exact Gives.error
          | restNamed => exact Gives.error
          | rest => exact Gives.ok ⟨⟨tame.values, tameArguments, tame.restNamed⟩, others⟩
          | ordinary =>
              by_cases twice : (named.lookup parameter.name).isSome
              · simp only [twice, if_true]
                exact Gives.error
              · simp only [twice]
                exact ih others tameRest (tame.bind _ tameFirst)

theorem bindNamed_gives {parameters : List Parameter} {named : List (String × Value)}
    {bound : Bound} (signature : Tame parameters) (tameNamed : Dictionary.Each Value.Tame named)
    (tame : bound.Tame) :
    Gives (bindNamed parameters named bound) fun result =>
      result.1.Tame ∧ Dictionary.Each Value.Tame result.2 := by
  induction parameters generalizing named bound with
  | nil => exact Gives.ok ⟨tame, tameNamed⟩
  | cons parameter parameters ih =>
      obtain ⟨fallbacks, others⟩ := List.forall_mem_cons.mp signature
      rw [bindNamed]
      split
      · exact ih others tameNamed tame
      · cases given : named.lookup parameter.name with
        | some argument =>
            apply ih others
            · intro entry member
              exact tameNamed entry (List.mem_filter.mp member).1
            · exact tame.bind _ (tameNamed.get? given)
        | none =>
            cases fallback : parameter.fallback with
            | some value => exact ih others tameNamed (tame.bind _ (fallbacks value fallback))
            | none => exact Gives.error

theorem bind_gives {signature : Signature} {positional : List Value} {named : List (String × Value)}
    (known : signature.Tame) (tamePositional : ∀ value ∈ positional, value.Tame)
    (tameNamed : Dictionary.Each Value.Tame named) :
    Gives (signature.bind positional named) Bound.Tame := by
  have start : Bound.Tame {} := ⟨.nil, List.forall_mem_nil _, .nil⟩
  rw [bind]
  refine Gives.bind (bindPositional_gives named known tamePositional start) ?_
  intro result known
  obtain ⟨bound, others⟩ := result
  obtain ⟨tame, tameOthers⟩ := known
  refine Gives.bind (bindNamed_gives tameOthers tameNamed tame) ?_
  intro result known
  obtain ⟨bound, further⟩ := result
  obtain ⟨tame, tameFurther⟩ := known
  cases further with
  | nil => exact Gives.ok tame
  | cons entry rest =>
      by_cases takes : signature.any (·.kind == .restNamed)
      · simp only [takes, if_true]
        exact Gives.ok ⟨tame.values, tame.rest, tameFurther⟩
      · simp only [takes]
        exact Gives.error

end Signature

open Outcome

/-- From tame arguments the filter gives tame values only. -/
structure Filter.Tame (filter : Filter) : Prop where
  signature : filter.signature.Tame
  run : ∀ bound : Bound, bound.Tame → Gives (filter.run bound) Value.Tame

theorem Filter.Tame.apply {filter : Filter} (tame : filter.Tame) {name : String} {value : Value}
    {positional : List Value} {named : List (String × Value)} (tameValue : value.Tame)
    (tamePositional : ∀ value ∈ positional, value.Tame)
    (tameNamed : Dictionary.Each Value.Tame named) :
    Gives (filter.apply name value positional named) Value.Tame := by
  have all : ∀ argument ∈ value :: positional, argument.Tame :=
    List.forall_mem_cons.mpr ⟨tameValue, tamePositional⟩
  unfold Filter.apply
  cases found : filter.signature.bind (value :: positional) named with
  | error cause => exact Gives.error
  | ok bound => exact tame.run bound (Signature.bind_gives tame.signature all tameNamed bound found)

namespace Builtin

theorem text_tame (content : String) : (text content).Tame :=
  Value.tame_ordinary content

/-- A filter that makes text of something gives tame values. -/
theorem gives_text {α : Type} (outcome : Except FilterFailure α) (change : α → String) :
    Gives (do return text (change (← outcome))) Value.Tame :=
  Gives.anyBind fun value => Gives.ok (text_tame (change value))

theorem gives_number {α : Type} (outcome : Except FilterFailure α) (change : α → Number) :
    Gives (do return .number (change (← outcome))) Value.Tame :=
  Gives.anyBind fun _ => Gives.ok trivial

theorem requireItems_gives (filter : String) {value : Value} (tame : value.Tame) :
    Gives (requireItems filter value) fun items => ∀ item ∈ items, item.Tame := by
  cases value with
  | string content safe =>
      apply Gives.ok
      intro item member
      obtain ⟨c, _, rfl⟩ := List.mem_map.mp member
      exact text_tame _
  | sequence kind items => exact Gives.ok (Value.tame_sequence.mp tame)
  | _ => exact Gives.error

theorem escape_gives {value : Value} (tame : value.Tame) : Gives (escape value) Value.Tame := by
  unfold escape
  split
  · exact Gives.ok tame
  · exact Gives.anyBind fun content => Gives.ok fun _ => Text.escapeMarkup_clean content

theorem length_gives (value : Value) : Gives (length value) Value.Tame := by
  cases value with
  | string | sequence | mapping => exact Gives.ok trivial
  | _ => exact Gives.error

theorem join_gives (value separator : Value) : Gives (join value separator) Value.Tame := by
  apply Gives.anyBind
  intro items
  cases separator with
  | string between safe => exact gives_text _ _
  | _ => exact Gives.error

theorem default_gives {value fallback : Value} (tame : value.Tame) (tameFallback : fallback.Tame) :
    Gives (default value fallback) Value.Tame := by
  unfold default
  split
  · exact Gives.ok tameFallback
  · exact Gives.ok tame

theorem first_gives {value : Value} (tame : value.Tame) : Gives (first value) Value.Tame := by
  refine Gives.bind (requireItems_gives "first" tame) ?_
  intro items each
  apply Gives.ok
  cases items with
  | nil => exact trivial
  | cons item items => exact each item List.mem_cons_self

theorem last_gives {value : Value} (tame : value.Tame) : Gives (last value) Value.Tame := by
  refine Gives.bind (requireItems_gives "last" tame) ?_
  intro items each
  apply Gives.ok
  cases found : items.getLast? with
  | none => exact trivial
  | some item => exact each item (List.mem_of_getLast? found)

theorem reverse_gives {value : Value} (tame : value.Tame) : Gives (reverse value) Value.Tame := by
  cases value with
  | string => exact Gives.ok (text_tame _)
  | sequence kind items =>
      apply Gives.ok
      rw [Value.tame_list]
      intro item member
      exact Value.tame_sequence.mp tame item (List.mem_reverse.mp member)
  | _ => exact Gives.error

theorem sort_gives {value : Value} (tame : value.Tame) : Gives (sort value) Value.Tame := by
  cases value with
  | string => exact Gives.ok (text_tame _)
  | sequence kind items =>
      rw [sort]
      split
      · apply Gives.ok
        rw [Value.tame_list]
        intro item member
        exact Value.tame_sequence.mp tame item (Sorting.mem_sort.mp member)
      · exact Gives.error
  | _ => exact Gives.error

theorem replace_gives (value old new : Value) : Gives (replace value old new) Value.Tame := by
  apply Gives.anyBind
  intro content
  split
  · exact Gives.ok (text_tame _)
  · exact Gives.error

theorem truncate_gives {value : Value} (length suffix : Value) (tame : value.Tame) :
    Gives (truncate value length suffix) Value.Tame := by
  apply Gives.anyBind
  intro content
  split
  · split
    · exact Gives.error
    · split
      · exact Gives.ok tame
      · exact gives_text _ _
  · exact Gives.error

theorem round_gives (value digits : Value) : Gives (round value digits) Value.Tame := by
  apply Gives.anyBind
  intro number
  split
  · split
    · exact Gives.ok trivial
    · exact Gives.error
  · exact Gives.error

theorem converted_gives (filter : String) (value : Value) (number : Option Number) :
    Gives (converted filter value number) Value.Tame := by
  cases number with
  | some number => exact Gives.ok trivial
  | none =>
      rw [converted]
      split <;> exact Gives.error

theorem int_gives (value : Value) : Gives (int value) Value.Tame := by
  unfold int
  split
  · exact converted_gives _ _ _
  · exact Gives.anyBind fun _ => converted_gives _ _ _

theorem float_gives (value : Value) : Gives (float value) Value.Tame := by
  unfold float
  split
  · exact converted_gives _ _ _
  · exact Gives.anyBind fun _ => converted_gives _ _ _

theorem string_gives {value : Value} (tame : value.Tame) : Gives (string value) Value.Tame := by
  unfold string
  split
  · exact Gives.ok tame
  · exact gives_text _ _

theorem keys_gives {value : Value} (tame : value.Tame) : Gives (keys value) Value.Tame := by
  cases value with
  | mapping entries =>
      apply Gives.ok
      rw [Value.tame_list]
      intro item member
      obtain ⟨entry, inside, rfl⟩ := List.mem_map.mp member
      exact (Value.entriesEach_iff.mp tame entry inside).1.toValue
  | _ => exact Gives.error

theorem values_gives {value : Value} (tame : value.Tame) : Gives (values value) Value.Tame := by
  cases value with
  | mapping entries =>
      apply Gives.ok
      rw [Value.tame_list]
      intro item member
      obtain ⟨entry, inside, rfl⟩ := List.mem_map.mp member
      exact (Value.entriesEach_iff.mp tame entry inside).2
  | _ => exact Gives.error

theorem json_gives (value : Value) : Gives (json value) Value.Tame := by
  unfold json
  split
  · exact Gives.ok (text_tame _)
  · exact Gives.error
  · exact Gives.error

theorem prepend_gives (value before : Value) : Gives (prepend value before) Value.Tame :=
  Gives.anyBind fun _ => gives_text _ _

theorem append_gives (value after : Value) : Gives (append value after) Value.Tame :=
  Gives.anyBind fun _ => gives_text _ _

theorem valueOnly_tame : valueOnly.Tame := by
  intro parameter member
  obtain rfl := List.mem_singleton.mp member
  intro value given
  cases given

theorem plain_tame {run : Value → Result}
    (gives : ∀ value, value.Tame → Gives (run value) Value.Tame) : (plain run).Tame :=
  ⟨valueOnly_tame, fun _ tame => gives _ (tame.value _)⟩

theorem withOne_tame {parameter : Parameter} {run : Value → Value → Result}
    (fallback : ∀ value ∈ parameter.fallback, value.Tame)
    (gives : ∀ value argument, value.Tame → argument.Tame → Gives (run value argument) Value.Tame) :
    (withOne parameter run).Tame := by
  refine ⟨fun other member => ?_, fun bound tame => gives _ _ (tame.value _) (tame.value _)⟩
  obtain first | last := List.mem_append.mp member
  · exact valueOnly_tame other first
  · obtain rfl := List.mem_singleton.mp last
    exact fallback

theorem withTwo_tame {one two : Parameter} {run : Value → Value → Value → Result}
    (fallbackOne : ∀ value ∈ one.fallback, value.Tame)
    (fallbackTwo : ∀ value ∈ two.fallback, value.Tame)
    (gives : ∀ value first second, value.Tame → Gives (run value first second) Value.Tame) :
    (withTwo one two run).Tame := by
  refine ⟨fun other member => ?_, fun bound tame => gives _ _ _ (tame.value _)⟩
  obtain first | last := List.mem_append.mp member
  · exact valueOnly_tame other first
  · simp only [List.mem_cons, List.not_mem_nil, or_false] at last
    obtain rfl | rfl := last
    · exact fallbackOne
    · exact fallbackTwo

theorem required (value : Value) (given : value ∈ (none : Option Value)) : value.Tame := by
  cases given

theorem optional_tame {fallback : Value} (tame : fallback.Tame) :
    ∀ value ∈ some fallback, value.Tame := by
  intro value given
  cases given
  exact tame

/-- Every built-in filter but the one for declaring text safe keeps values tame. -/
theorem filters_tame : ∀ entry ∈ filters, entry.1 ≠ "safe" → entry.2.Tame := by
  simp only [filters, List.forall_mem_cons]
  refine ⟨fun other => absurd rfl other, fun _ => plain_tame fun _ => escape_gives,
    fun _ => plain_tame fun _ _ => gives_text _ _, fun _ => plain_tame fun _ _ => gives_text _ _,
    fun _ => plain_tame fun _ _ => gives_text _ _, fun _ => plain_tame fun _ _ => gives_text _ _,
    fun _ => plain_tame fun _ _ => gives_text _ _,
    fun _ => plain_tame fun value _ => length_gives value,
    fun _ => withOne_tame (optional_tame (text_tame _)) fun _ _ _ _ => join_gives _ _,
    fun _ => withOne_tame (optional_tame (text_tame _)) fun _ _ => default_gives,
    fun _ => plain_tame fun _ => first_gives, fun _ => plain_tame fun _ => last_gives,
    fun _ => plain_tame fun _ => reverse_gives, fun _ => plain_tame fun _ => sort_gives,
    fun _ => withTwo_tame required required fun _ _ _ _ => replace_gives _ _ _,
    fun _ => withTwo_tame (optional_tame trivial) (optional_tame (text_tame _))
      fun _ _ _ => truncate_gives _ _,
    fun _ => plain_tame fun _ _ => gives_number _ _,
    fun _ => withOne_tame (optional_tame trivial) fun _ _ _ _ => round_gives _ _,
    fun _ => plain_tame fun value _ => int_gives value,
    fun _ => plain_tame fun value _ => float_gives value,
    fun _ => plain_tame fun _ => string_gives, fun _ => plain_tame fun _ => keys_gives,
    fun _ => plain_tame fun _ => values_gives,
    fun _ => plain_tame fun value _ => json_gives value,
    fun _ => withOne_tame required fun _ _ _ _ => prepend_gives _ _,
    fun _ => withOne_tame required fun _ _ _ _ => append_gives _ _, List.forall_mem_nil _⟩

end Builtin

/-- What a template finds under another name than that filter's keeps values tame. -/
theorem Registry.builtin_tame {name : String} {filter : Filter} (other : name ≠ "safe")
    (found : Registry.builtin.find? name = some filter) : filter.Tame :=
  Builtin.filters_tame _ (Dictionary.mem_of_get? found) other

end Templating
