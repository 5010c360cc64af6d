import Mathlib.Data.List.Nodup
import Mathlib.Tactic.Tauto
import Templating.Dictionary

/-!
What a dictionary holds after entries have been set.
-/

namespace Templating.Dictionary

variable {α : Type}

theorem get?_cons (entry : String × α) (rest : Dictionary α) (name : String) :
    get? (entry :: rest) name = if entry.1 = name then some entry.2 else get? rest name := by
  rw [get?, List.lookup_cons]
  by_cases same : entry.1 = name
  · simp [same]
  · have different : (name == entry.1) = false := beq_false_of_ne fun equal => same equal.symm
    rw [if_neg same, different]
    rfl

/-- A change of all values changes what every name means. -/
theorem get?_mapped {β : Type} (change : α → β) (entries : Dictionary α)
    (name : String) :
    get? (entries.map fun entry => (entry.1, change entry.2)) name =
      (entries.get? name).map change := by
  induction entries with
  | nil => rfl
  | cons entry rest ih =>
      rw [List.map_cons, get?_cons, get?_cons, ih]
      split <;> rfl

theorem get?_append (entries others : Dictionary α) (name : String) :
    get? (entries ++ others) name = (entries.get? name).or (others.get? name) :=
  List.lookup_append

theorem has_eq_isSome (entries : Dictionary α) (name : String) :
    entries.has name = (entries.get? name).isSome := by
  induction entries with
  | nil => rfl
  | cons entry rest ih =>
      have head : has (entry :: rest) name = (entry.1 == name || has rest name) := rfl
      rw [head, ih, get?_cons]
      by_cases same : entry.1 = name <;> simp [same]

/-- Setting a name again changes only what it means. -/
theorem get?_replace (entries : Dictionary α) (name other : String) (value : α) :
    get? (entries.map fun entry => if entry.1 == name then (name, value) else entry) other =
      if other = name then (entries.get? name).map fun _ => value else entries.get? other := by
  induction entries with
  | nil => simp [get?]
  | cons entry rest ih =>
      rw [List.map_cons, get?_cons, get?_cons, get?_cons, ih]
      by_cases here : entry.1 = name
      · by_cases same : other = name
        · simp [here, same]
        · simp [here, same, Ne.symm same]
      · by_cases same : other = name
        · simp [here, same]
        · simp [here, same]

theorem get?_set (entries : Dictionary α) (name other : String) (value : α) :
    (entries.set name value).get? other =
      if other = name then some value else entries.get? other := by
  unfold set
  split
  case isTrue present =>
    obtain ⟨old, found⟩ := Option.isSome_iff_exists.mp (has_eq_isSome entries name ▸ present)
    rw [get?_replace, found]
    rfl
  case isFalse absent =>
    rw [has_eq_isSome, Bool.not_eq_true, Option.isSome_eq_false_iff,
      Option.isNone_iff_eq_none] at absent
    rw [get?_append, get?_cons]
    by_cases same : other = name
    · simp [same, absent]
    · rw [if_neg fun equal => same equal.symm, if_neg same]
      exact Option.or_none

@[simp] theorem get?_set_self (entries : Dictionary α) (name : String) (value : α) :
    (entries.set name value).get? name = some value := by
  rw [get?_set, if_pos rfl]

theorem has_iff_mem_names (entries : Dictionary α) (name : String) :
    entries.has name = true ↔ name ∈ entries.names := by
  simp [has, names]

/-- A new name comes last. -/
theorem set_of_absent {entries : Dictionary α} {name : String} (absent : entries.has name = false)
    (value : α) : entries.set name value = entries ++ [(name, value)] := by
  rw [set, if_neg (Bool.eq_false_iff.mp absent)]

theorem names_set_of_absent {entries : Dictionary α} {name : String}
    (absent : entries.has name = false) (value : α) :
    (entries.set name value).names = entries.names ++ [name] := by
  rw [set_of_absent absent]
  exact List.map_append

theorem not_mem_names_of_absent {entries : Dictionary α} {name : String}
    (absent : entries.has name = false) : name ∉ entries.names := by
  rw [← has_iff_mem_names, absent]
  exact Bool.false_ne_true

theorem nodup_set_of_absent {entries : Dictionary α} {name : String}
    (absent : entries.has name = false) (distinct : entries.names.Nodup) (value : α) :
    (entries.set name value).names.Nodup := by
  rw [names_set_of_absent absent, ← List.concat_eq_append]
  exact List.Nodup.concat (not_mem_names_of_absent absent) distinct

theorem mem_of_get? {entries : Dictionary α} {name : String} {value : α}
    (found : entries.get? name = some value) : (name, value) ∈ entries := by
  induction entries with
  | nil => cases found
  | cons entry rest ih =>
      obtain ⟨other, first⟩ := entry
      rw [get?, List.lookup_cons] at found
      by_cases same : name == other
      · simp only [same] at found
        cases found
        rw [beq_iff_eq.mp same]
        exact List.mem_cons_self
      · simp only [same] at found
        exact List.mem_cons_of_mem _ (ih found)

theorem mem_set {entries : Dictionary α} {name : String} {value : α} {entry : String × α}
    (member : entry ∈ set entries name value) : entry ∈ entries ∨ entry = (name, value) := by
  unfold set at member
  split at member
  · obtain ⟨old, inside, same⟩ := List.mem_map.mp member
    split at same
    · exact .inr same.symm
    · exact .inl (same ▸ inside)
  · simpa using member

theorem mem_update {entries others : Dictionary α} {entry : String × α}
    (member : entry ∈ update entries others) : entry ∈ entries ∨ entry ∈ others := by
  induction others generalizing entries with
  | nil => exact .inl member
  | cons other others ih =>
      obtain inside | inside := ih member
      · obtain old | same := mem_set inside
        · exact .inl old
        · exact .inr (same ▸ List.mem_cons_self)
      · exact .inr (List.mem_cons_of_mem _ inside)

@[simp] theorem has_set (entries : Dictionary α) (name other : String) (value : α) :
    (entries.set name value).has other = true ↔ other = name ∨ entries.has other = true := by
  rw [has_eq_isSome, has_eq_isSome, get?_set]
  by_cases same : other = name <;> simp [same]

@[simp] theorem has_update (entries others : Dictionary α) (name : String) :
    (entries.update others).has name = true ↔
      entries.has name = true ∨ others.has name = true := by
  induction others generalizing entries with
  | nil => simp [update, has]
  | cons other others ih =>
      have step : entries.update (other :: others) =
          (entries.set other.1 other.2).update others := rfl
      have first : has (other :: others) name = (other.1 == name || has others name) := rfl
      rw [step, ih, has_set, first, Bool.or_eq_true, beq_iff_eq]
      tauto

theorem get?_eq_none {entries : Dictionary α} {name : String} (absent : name ∉ entries.names) :
    entries.get? name = none := by
  rw [← has_iff_mem_names, has_eq_isSome] at absent
  simpa using absent

/-- What the other dictionary has comes before what is there. -/
theorem get?_update {others : Dictionary α} (distinct : others.names.Nodup)
    (entries : Dictionary α) (name : String) :
    (entries.update others).get? name = (others.get? name).or (entries.get? name) := by
  induction others generalizing entries with
  | nil => rfl
  | cons other rest ih =>
      obtain ⟨fresh, distinctRest⟩ := List.nodup_cons.mp distinct
      have step : entries.update (other :: rest) = (entries.set other.1 other.2).update rest := rfl
      rw [step, ih distinctRest, get?_set, get?_cons]
      by_cases same : other.1 = name
      · subst same
        simp [get?_eq_none fresh]
      · simp [same, Ne.symm same]

theorem update_append (entries others further : Dictionary α) :
    entries.update (others ++ further) = (entries.update others).update further :=
  List.foldl_append

/-- Every value satisfies the condition. -/
def Each (holds : α → Prop) (entries : Dictionary α) : Prop :=
  ∀ entry ∈ entries, holds entry.2

variable {holds : α → Prop} {entries others : Dictionary α}

theorem Each.nil : Each holds [] :=
  List.forall_mem_nil _

theorem Each.get? (each : Each holds entries) {name : String} {value : α}
    (found : entries.get? name = some value) : holds value :=
  each _ (mem_of_get? found)

theorem Each.set (each : Each holds entries) (name : String) {value : α} (holdsNew : holds value) :
    Each holds (entries.set name value) := by
  intro entry member
  obtain old | same := mem_set member
  · exact each entry old
  · rw [same]
    exact holdsNew

theorem Each.update (each : Each holds entries) (eachOther : Each holds others) :
    Each holds (entries.update others) := by
  intro entry member
  obtain old | new := mem_update member
  · exact each entry old
  · exact eachOther entry new

theorem Each.ofList {settings : List (String × α)} (each : Each holds settings) :
    Each holds (ofList settings) :=
  Each.nil.update each

end Templating.Dictionary
