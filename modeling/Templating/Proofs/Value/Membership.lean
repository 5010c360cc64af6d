import Mathlib.Data.List.Nodup
import Templating.Value.Operation

/-!
Membership in a mapping beside membership among its keys. A mapping finds a key as entries are found,
for which a truth value is the number one or zero; among the keys as a sequence it is no number.
-/

namespace Templating

theorem Binary64.unitsOf_whole (value : Int) :
    unitsOf (decide (value < 0)) value.natAbs 0 0 = value := by
  have one : twoTo (0 - 0) = 1 := rfl
  simp only [unitsOf, one, Int.natCast_one, Int.mul_one, decide_eq_true_eq]
  split <;> omega

@[simp] theorem Number.equal_int (left right : Int) :
    (int left).equal (int right) = decide (left = right) := by
  have compared : (int left).compare? (int right) = some (Ord.compare left right) := by
    simp [compare?, exact, Binary64.compare?, Binary64.unitsOf_whole]
  rw [equal, compared, Bool.eq_iff_iff]
  simp

@[simp] theorem Number.same_int (left right : Int) :
    (int left).same (int right) = decide (left = right) := by
  rw [same, equal_int, Bool.eq_iff_iff]
  simp

namespace Key

/-- Null, a truth value, a whole number or a text. -/
def IsScalar : Key → Prop
  | null | bool _ | number (.int _) | string .. => True
  | _ => False

def isBool : Key → Bool
  | bool _ => true
  | _ => false

/-- The key with a truth value as the number that it counts as, and no mark on a text. -/
def counted : Key → Key
  | bool value => number (.int (if value then 1 else 0))
  | string text _ => string text false
  | key => key

variable {left right : Key}

theorem toKey?_toValue {key : Key} (scalar : key.IsScalar) : key.toValue.toKey? = some key := by
  cases key with
  | null | bool | number | string => rfl
  | tuple | host => cases scalar

/-- Two keys name one entry if they count as the same. -/
theorem same_iff_counted (scalar : left.IsScalar) (other : right.IsScalar) :
    left.same right = true ↔ left.counted = right.counted := by
  match left, right with
  | null, null | null, bool _ | null, number _ | null, string ..
  | bool _, null | bool _, bool _ | bool _, number (.int _) | bool _, string ..
  | number _, null | number (.int _), bool _ | number (.int _), number (.int _)
  | number _, string .. | string .., null | string .., bool _ | string .., number _
  | string .., string .. => simp [same, counted, number?]

/-- Two values are equal if they count as the same and both or neither are truth values. -/
theorem equal_iff_counted (scalar : left.IsScalar) (other : right.IsScalar) :
    left.toValue.equal right.toValue = true ↔
      left.isBool = right.isBool ∧ left.counted = right.counted := by
  match left, right with
  | bool one, bool two => cases one <;> cases two <;> simp [Value.equal, toValue, counted, isBool]
  | null, null | null, bool _ | null, number _ | null, string ..
  | bool _, null | bool _, number (.int _) | bool _, string ..
  | number _, null | number (.int _), bool _ | number (.int _), number (.int _)
  | number _, string .. | string .., null | string .., bool _ | string .., number _
  | string .., string .. => simp [Value.equal, toValue, counted, isBool]

end Key

namespace Value

variable {entries : List (Key × Value)} {item : Key}

theorem contains_mapping (scalar : item.IsScalar) : contains (.mapping entries) item.toValue =
    .ok (entries.any fun entry => entry.1.same item) := by
  rw [contains, Key.toKey?_toValue scalar]

theorem contains_list (items : List Value) (item : Value) :
    contains (.list items) item = .ok (items.any item.equal) :=
  rfl

/-- A mapping has the members that its keys have, unless one of the keys is a truth value where the
member is the number that it counts as, or the other way round. -/
theorem contains_keys (scalars : ∀ entry ∈ entries, entry.1.IsScalar) (scalar : item.IsScalar)
    (distinct : entries.Pairwise fun one other => one.1.same other.1 = false) :
    contains (.mapping entries) item.toValue =
        contains (.list (entries.map fun entry => entry.1.toValue)) item.toValue ↔
      ∀ entry ∈ entries, entry.1.same item = true → entry.1.isBool = item.isBool := by
  have host : (entries.any fun entry => entry.1.same item) = true ↔
      ∃ entry ∈ entries, entry.1.counted = item.counted := by
    rw [List.any_eq_true]
    exact exists_congr fun entry => and_congr_right fun member =>
      Key.same_iff_counted (scalars entry member) scalar
  have strict : (entries.map fun entry => entry.1.toValue).any item.toValue.equal = true ↔
      ∃ entry ∈ entries, item.isBool = entry.1.isBool ∧ item.counted = entry.1.counted := by
    rw [List.any_map, List.any_eq_true]
    exact exists_congr fun entry => and_congr_right fun member =>
      Key.equal_iff_counted scalar (scalars entry member)
  rw [contains_mapping scalar, contains_list, Except.ok.injEq, Bool.eq_iff_iff, host, strict]
  constructor
  · intro agrees entry member same
    have counts := (Key.same_iff_counted (scalars entry member) scalar).mp same
    obtain ⟨found, among, kind, equal⟩ := agrees.mp ⟨entry, member, counts⟩
    -- No two keys count as the same, so the key that is equal to the member is this one.
    have counted : (entries.map fun entry => entry.1.counted).Nodup := by
      refine List.pairwise_map.mpr (distinct.imp_of_mem fun one two apart counts => ?_)
      rw [(Key.same_iff_counted (scalars _ one) (scalars _ two)).mpr counts] at apart
      cases apart
    rw [List.inj_on_of_nodup_map counted member among (counts.trans equal), kind]
  · intro alike
    constructor
    · rintro ⟨entry, member, counts⟩
      have same := (Key.same_iff_counted (scalars entry member) scalar).mpr counts
      exact ⟨entry, member, (alike entry member same).symm, counts.symm⟩
    · rintro ⟨entry, member, _, counts⟩
      exact ⟨entry, member, counts.symm⟩

/-- The number one is a member both ways, whatever else is a key. -/
theorem contains_keys_one :
    let entries := [(Key.string "a" false, Value.null), (.number (.int 1), .null)]
    let one := Key.number (.int 1)
    (∀ entry ∈ entries, entry.1.IsScalar) ∧ one.IsScalar ∧
      (entries.Pairwise fun one other => one.1.same other.1 = false) ∧
      (contains (.mapping entries) one.toValue =
          contains (.list (entries.map fun entry => entry.1.toValue)) one.toValue ↔
        ∀ entry ∈ entries, entry.1.same one = true → entry.1.isBool = one.isBool) := by
  intro entries one
  have scalars : ∀ entry ∈ entries, entry.1.IsScalar := by simp [entries, Key.IsScalar]
  have distinct : entries.Pairwise fun one other => one.1.same other.1 = false := by decide
  exact ⟨scalars, trivial, distinct, contains_keys scalars trivial distinct⟩

/-- A mapping with the key one contains the truth value, which is not among its keys. -/
theorem contains_keys_truth : ¬ ∀ (entries : List (Key × Value)) (item : Key),
    (∀ entry ∈ entries, entry.1.IsScalar) → item.IsScalar →
      (entries.Pairwise fun one other => one.1.same other.1 = false) →
        contains (.mapping entries) item.toValue =
          contains (.list (entries.map fun entry => entry.1.toValue)) item.toValue := by
  intro all
  have same := all [(.number (.int 1), .null)] (.bool true) (by simp [Key.IsScalar]) trivial
    (List.pairwise_singleton _ _)
  cases same

end Value

end Templating
