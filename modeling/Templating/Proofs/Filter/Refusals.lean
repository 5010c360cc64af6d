import Templating.Filter.Registry
import Templating.Proofs.Dictionary
import Templating.Proofs.Outcome

/-!
How the built-in filters fail: they refuse what they are given, or a value that they write has no
text. None of them runs an operation of its own that may fail.
-/

namespace Templating

open Outcome

/-- The filter refuses, or a value has no text. -/
def FilterFailure.IsRefusal : FilterFailure → Prop
  | refusal _ | noText => True
  | operation _ | host _ => False

namespace Builtin

/-- It fails by refusing or for want of a text only. -/
abbrev Refuses {α : Type} (outcome : Except FilterFailure α) : Prop :=
  Fails outcome FilterFailure.IsRefusal

theorem refuse_refuses {α : Type} (refusal : FilterRefusal) :
    Refuses (refuse refusal : Except FilterFailure α) :=
  Fails.error trivial

theorem requireText_refuses (filter : String) (value : Value) :
    Refuses (requireText filter value) := by
  cases value with
  | string => exact Fails.ok
  | _ => exact refuse_refuses _

theorem requireNumber_refuses (filter : String) (value : Value) :
    Refuses (requireNumber filter value) := by
  cases value with
  | number => exact Fails.ok
  | _ => exact refuse_refuses _

theorem requireItems_refuses (filter : String) (value : Value) :
    Refuses (requireItems filter value) := by
  cases value with
  | string | sequence => exact Fails.ok
  | _ => exact refuse_refuses _

theorem written_refuses (value : Value) : Refuses (written value) := by
  unfold written
  split
  · exact Fails.ok
  · exact Fails.error trivial

/-- What is computed from a result adds no failures. -/
theorem Refuses.map {α : Type} {outcome : Except FilterFailure α} (refuses : Refuses outcome)
    (change : α → Value) : Refuses (do return change (← outcome)) :=
  Fails.bind refuses fun _ => Fails.ok

theorem escape_refuses (value : Value) : Refuses (escape value) := by
  unfold escape
  split
  · exact Fails.ok
  · exact Refuses.map (written_refuses _) _

theorem length_refuses (value : Value) : Refuses (length value) := by
  cases value with
  | string | sequence | mapping => exact Fails.ok
  | _ => exact refuse_refuses _

theorem join_refuses (value separator : Value) : Refuses (join value separator) := by
  refine Fails.bind (requireItems_refuses _ value) fun items => ?_
  cases separator with
  | string between safe => exact Refuses.map (Fails.mapM fun item _ => written_refuses item) _
  | _ => exact refuse_refuses _

theorem default_refuses (value fallback : Value) : Refuses (default value fallback) := by
  unfold default
  split <;> exact Fails.ok

theorem reverse_refuses (value : Value) : Refuses (reverse value) := by
  cases value with
  | string | sequence => exact Fails.ok
  | _ => exact refuse_refuses _

theorem sort_refuses (value : Value) : Refuses (sort value) := by
  cases value with
  | string => exact Fails.ok
  | sequence kind items =>
      rw [sort]
      split
      · exact Fails.ok
      · exact refuse_refuses _
  | _ => exact refuse_refuses _

theorem replace_refuses (value old new : Value) : Refuses (replace value old new) := by
  refine Fails.bind (requireText_refuses _ value) fun content => ?_
  split
  · exact Fails.ok
  · exact refuse_refuses _

theorem truncate_refuses (value length suffix : Value) :
    Refuses (truncate value length suffix) := by
  refine Fails.bind (requireText_refuses _ value) fun content => ?_
  split
  · split
    · exact refuse_refuses _
    · split
      · exact Fails.ok
      · exact Refuses.map (written_refuses suffix) _
  · exact refuse_refuses _

theorem round_refuses (value digits : Value) : Refuses (round value digits) := by
  refine Fails.bind (requireNumber_refuses _ value) fun number => ?_
  split
  · split
    · exact Fails.ok
    · exact refuse_refuses _
  · exact refuse_refuses _

theorem converted_refuses (filter : String) (value : Value) (number : Option Number) :
    Refuses (converted filter value number) := by
  cases number with
  | some number => exact Fails.ok
  | none =>
      rw [converted]
      split
      · exact refuse_refuses _
      · exact Fails.error trivial

theorem int_refuses (value : Value) : Refuses (int value) := by
  unfold int
  split
  · exact converted_refuses _ _ _
  · exact Fails.bind (requireNumber_refuses _ _) fun _ => converted_refuses _ _ _

theorem float_refuses (value : Value) : Refuses (float value) := by
  unfold float
  split
  · exact converted_refuses _ _ _
  · exact Fails.bind (requireNumber_refuses _ _) fun _ => converted_refuses _ _ _

theorem string_refuses (value : Value) : Refuses (string value) := by
  unfold string
  split
  · exact Fails.ok
  · exact Refuses.map (written_refuses _) _

theorem keys_refuses (value : Value) : Refuses (keys value) := by
  cases value with
  | mapping => exact Fails.ok
  | _ => exact refuse_refuses _

theorem values_refuses (value : Value) : Refuses (values value) := by
  cases value with
  | mapping => exact Fails.ok
  | _ => exact refuse_refuses _

theorem json_refuses (value : Value) : Refuses (json value) := by
  unfold json
  split
  · exact Fails.ok
  · exact Fails.error trivial
  · exact refuse_refuses _

/-- A filter that joins a text to that of its value. -/
theorem joined_refuses (first second : Value) :
    Refuses (do return text ((← written first) ++ (← written second))) :=
  Fails.bind (written_refuses first) fun _ => Refuses.map (written_refuses second) _

/-- No built-in filter fails in any other way, whatever arguments it is given. -/
theorem filters_refuse : ∀ entry ∈ filters, ∀ bound, Refuses (entry.2.run bound) := by
  have onText (filter : String) (change : String → String) (value : Value) :
      Refuses (Builtin.onText filter change value) :=
    Refuses.map (requireText_refuses filter value) _
  simp only [filters, List.forall_mem_cons]
  exact ⟨fun _ => Refuses.map (written_refuses _) _, fun _ => escape_refuses _,
    fun _ => onText _ _ _, fun _ => onText _ _ _, fun _ => onText _ _ _, fun _ => onText _ _ _,
    fun _ => onText _ _ _, fun _ => length_refuses _, fun _ => join_refuses _ _,
    fun _ => default_refuses _ _, fun _ => Refuses.map (requireItems_refuses _ _) _,
    fun _ => Refuses.map (requireItems_refuses _ _) _, fun _ => reverse_refuses _,
    fun _ => sort_refuses _, fun _ => replace_refuses _ _ _, fun _ => truncate_refuses _ _ _,
    fun _ => Refuses.map (requireNumber_refuses _ _) _, fun _ => round_refuses _ _,
    fun _ => int_refuses _, fun _ => float_refuses _, fun _ => string_refuses _,
    fun _ => keys_refuses _, fun _ => values_refuses _, fun _ => json_refuses _,
    fun _ => joined_refuses _ _, fun _ => joined_refuses _ _, List.forall_mem_nil _⟩

end Builtin

/-- Arguments that do not match the signature are refused as well. -/
theorem Registry.builtin_refuses {name : String} {filter : Filter}
    (found : Registry.builtin.find? name = some filter) (other : String) (value : Value)
    (positional : List Value) (named : List (String × Value)) :
    Fails (filter.apply other value positional named) FilterFailure.IsRefusal := by
  unfold Filter.apply
  split
  · exact Fails.error trivial
  · exact Builtin.filters_refuse _ (Dictionary.mem_of_get? found) _

end Templating
