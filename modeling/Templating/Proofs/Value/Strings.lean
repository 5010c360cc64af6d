import Templating.Proofs.Text.Markup
import Templating.Value

/-!
The strings in a value, at any depth, those in keys among them.
-/

namespace Templating

namespace Key

mutual

/-- Every string in the key is good, told whether it is safe. -/
def Each (good : String → Bool → Prop) : Key → Prop
  | string text safe => good text safe
  | tuple items => AllEach good items
  | _ => True

def AllEach (good : String → Bool → Prop) : List Key → Prop
  | [] => True
  | item :: items => item.Each good ∧ AllEach good items

end

end Key

namespace Value

mutual

/-- Every string in the value is good, told whether it is safe. -/
def Each (good : String → Bool → Prop) : Value → Prop
  | string text safe => good text safe
  | sequence _ items => AllEach good items
  | mapping entries => EntriesEach good entries
  | _ => True

def AllEach (good : String → Bool → Prop) : List Value → Prop
  | [] => True
  | item :: items => item.Each good ∧ AllEach good items

def EntriesEach (good : String → Bool → Prop) : List (Key × Value) → Prop
  | [] => True
  | (key, value) :: rest => key.Each good ∧ value.Each good ∧ EntriesEach good rest

end

/-- No string in the value is safe. -/
def Plain : Value → Prop :=
  Each fun _ safe => safe = false

/-- Every safe string in the value is clean. -/
def Tame : Value → Prop :=
  Each fun text safe => safe = true → Text.IsClean text.toList

end Value

variable {good better : String → Bool → Prop}

namespace Key

theorem allEach_iff {items : List Key} : AllEach good items ↔ ∀ item ∈ items, item.Each good := by
  induction items with
  | nil => simp [AllEach]
  | cons item items ih => rw [AllEach, ih, List.forall_mem_cons]

mutual

theorem Each.mono (weaker : ∀ text safe, good text safe → better text safe) :
    ∀ {key : Key}, key.Each good → key.Each better
  | .string text safe, each => weaker text safe each
  | .tuple _, each => AllEach.mono weaker each
  | .null, _ | .bool _, _ | .number _, _ | .host _, _ => trivial

theorem AllEach.mono (weaker : ∀ text safe, good text safe → better text safe) :
    ∀ {items : List Key}, AllEach good items → AllEach better items
  | [], _ => trivial
  | _ :: _, each => ⟨Each.mono weaker each.1, AllEach.mono weaker each.2⟩

end

mutual

theorem Each.toValue : ∀ {key : Key}, key.Each good → key.toValue.Each good
  | .string _ _, each => each
  | .tuple _, each => AllEach.toValues each
  | .null, _ | .bool _, _ | .number _, _ | .host _, _ => trivial

theorem AllEach.toValues : ∀ {items : List Key}, AllEach good items →
    Value.AllEach good (toValues items)
  | [], _ => trivial
  | _ :: _, each => ⟨Each.toValue each.1, AllEach.toValues each.2⟩

end

end Key

namespace Value

theorem allEach_iff {items : List Value} :
    AllEach good items ↔ ∀ item ∈ items, item.Each good := by
  induction items with
  | nil => simp [AllEach]
  | cons item items ih => rw [AllEach, ih, List.forall_mem_cons]

theorem entriesEach_iff {entries : List (Key × Value)} :
    EntriesEach good entries ↔ ∀ entry ∈ entries, entry.1.Each good ∧ entry.2.Each good := by
  induction entries with
  | nil => simp [EntriesEach]
  | cons entry entries ih => rw [EntriesEach, ih, List.forall_mem_cons, and_assoc]

mutual

theorem Each.mono (weaker : ∀ text safe, good text safe → better text safe) :
    ∀ {value : Value}, value.Each good → value.Each better
  | .string text safe, each => weaker text safe each
  | .sequence _ _, each => AllEach.mono weaker each
  | .mapping _, each => EntriesEach.mono weaker each
  | .null, _ | .bool _, _ | .number _, _ | .host _, _ => trivial

theorem AllEach.mono (weaker : ∀ text safe, good text safe → better text safe) :
    ∀ {items : List Value}, AllEach good items → AllEach better items
  | [], _ => trivial
  | _ :: _, each => ⟨Each.mono weaker each.1, AllEach.mono weaker each.2⟩

theorem EntriesEach.mono (weaker : ∀ text safe, good text safe → better text safe) :
    ∀ {entries : List (Key × Value)}, EntriesEach good entries → EntriesEach better entries
  | [], _ => trivial
  | _ :: _, each =>
    ⟨Key.Each.mono weaker each.1, Each.mono weaker each.2.1, EntriesEach.mono weaker each.2.2⟩

end

theorem Plain.tame {value : Value} (plain : value.Plain) : value.Tame :=
  Each.mono (fun _ _ notSafe safe => absurd (notSafe.symm.trans safe) Bool.false_ne_true) plain

theorem tame_list {items : List Value} : (list items).Tame ↔ ∀ item ∈ items, item.Tame :=
  allEach_iff

theorem tame_sequence {kind : SequenceKind} {items : List Value} :
    (sequence kind items).Tame ↔ ∀ item ∈ items, item.Tame :=
  allEach_iff

/-- A string that is not safe is tame, whatever its text. -/
theorem tame_ordinary (text : String) : (string text false).Tame :=
  fun safe => absurd safe Bool.false_ne_true

end Value

end Templating
