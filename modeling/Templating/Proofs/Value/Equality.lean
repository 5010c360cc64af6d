import Mathlib.Data.List.Forall2
import Mathlib.Data.List.Perm.Subperm
import Templating.Proofs.Value.Membership

/-!
Equality of the language on values that hold no objects of the host and no floats. A mapping finds
its keys as entries are found, for which a truth value is a number; each key has a meaning, and two
keys name one entry when they mean the same. So the mappings that are equal to one are equal to each
other, though equality looks from one side only.
-/

namespace Templating

namespace Key

/-- Null, a truth value, a whole number, a text, or a tuple of such keys. -/
inductive IsData : Key → Prop where
  | scalar {key : Key} (scalar : key.IsScalar) : IsData key
  | tuple {items : List Key} (all : ∀ item ∈ items, IsData item) : IsData (.tuple items)

mutual

/-- What a key counts as, with its items. -/
def meaning : Key → Key
  | tuple items => .tuple (meanings items)
  | key => key.counted

def meanings : List Key → List Key
  | [] => []
  | item :: items => item.meaning :: meanings items

end

variable {one other third : Key}

theorem IsScalar.meaning_eq (scalar : one.IsScalar) : one.meaning = one.counted := by
  cases one with
  | null | bool | number | string => rfl
  | tuple | host => cases scalar

theorem counted_ne_tuple (scalar : one.IsScalar) (items : List Key) : one.counted ≠ .tuple items := by
  cases one with
  | null | bool | number | string => simp [counted]
  | tuple | host => cases scalar

/-- No scalar names the entry of a tuple. -/
theorem same_tuple (scalar : one.IsScalar) (items : List Key) :
    one.same (.tuple items) = false ∧ (Key.tuple items).same one = false := by
  cases one with
  | null | bool | number | string => simp [same, number?]
  | tuple | host => cases scalar

theorem sameAll_iff {items others : List Key}
    (alike : ∀ item ∈ items, ∀ other ∈ others, item.same other = true ↔ item.meaning = other.meaning) :
    sameAll items others = true ↔ meanings items = meanings others := by
  induction items generalizing others with
  | nil => cases others <;> simp [sameAll, meanings]
  | cons item items ih =>
      cases others with
      | nil => simp [sameAll, meanings]
      | cons other others =>
          have rest := ih fun item among other member =>
            alike item (.tail _ among) other (.tail _ member)
          simp [sameAll, meanings, alike item (.head _) other (.head _), rest]

/-- Two keys name one entry if they mean the same. -/
theorem same_iff_meaning (data : one.IsData) (known : other.IsData) :
    one.same other = true ↔ one.meaning = other.meaning := by
  induction data generalizing other with
  | scalar scalar =>
      cases known with
      | scalar too => rw [same_iff_counted scalar too, scalar.meaning_eq, too.meaning_eq]
      | @tuple others _ =>
          simp [(same_tuple scalar others).1, scalar.meaning_eq, meaning, counted_ne_tuple scalar]
  | @tuple items _ ih =>
      cases known with
      | scalar too =>
          have apart := (counted_ne_tuple too (meanings items)).symm
          simp [(same_tuple too items).2, too.meaning_eq, meaning, apart]
      | @tuple others all =>
          have items := sameAll_iff fun item among other member => ih item among (all other member)
          simpa [same, meaning] using items

end Key

namespace Value

/-- A value of nulls, truth values, whole numbers, texts, sequences and mappings, at any depth. No two
keys of a mapping name one entry. -/
inductive IsData : Value → Prop where
  | null : IsData .null
  | bool (truth : Bool) : IsData (.bool truth)
  | int (number : Int) : IsData (.int number)
  | string (text : String) (safe : Bool) : IsData (.string text safe)
  | sequence (kind : SequenceKind) {items : List Value} (all : ∀ item ∈ items, IsData item) :
      IsData (.sequence kind items)
  | mapping {entries : List (Key × Value)}
      (distinct : entries.Pairwise fun one other => one.1.same other.1 = false)
      (keys : ∀ entry ∈ entries, entry.1.IsData) (values : ∀ entry ∈ entries, IsData entry.2) :
      IsData (.mapping entries)

abbrev Data : Type := {value : Value // value.IsData}

section Mappings

variable {entries others : List (Key × Value)} {key : Key} {value : Value}

theorem nodup_meanings (distinct : entries.Pairwise fun one other => one.1.same other.1 = false)
    (keys : ∀ entry ∈ entries, entry.1.IsData) : (entries.map (·.1.meaning)).Nodup := by
  refine List.pairwise_map.mpr (distinct.imp_of_mem fun one two apart alike => ?_)
  rw [(Key.same_iff_meaning (keys _ one) (keys _ two)).mpr alike] at apart
  cases apart

theorem valueAt?_eq_some_iff (distinct : (entries.map (·.1.meaning)).Nodup)
    (keys : ∀ entry ∈ entries, entry.1.IsData) (data : key.IsData) :
    valueAt? entries key = some value ↔
      ∃ entry ∈ entries, key.meaning = entry.1.meaning ∧ entry.2 = value := by
  have named : ∀ entry ∈ entries, entry.1.same key = true ↔ key.meaning = entry.1.meaning :=
    fun entry among => (Key.same_iff_meaning (keys entry among) data).trans eq_comm
  rw [valueAt?, Option.map_eq_some_iff]
  constructor
  · intro ⟨entry, found, carried⟩
    have among := List.mem_of_find?_eq_some found
    have same := List.find?_some found
    exact ⟨entry, among, (named entry among).mp same, carried⟩
  · intro ⟨entry, among, means, carried⟩
    -- Some entry is found, and it is this one, since no other means the same.
    have any : (entries.find? fun entry => entry.1.same key).isSome :=
      List.find?_isSome.mpr ⟨entry, among, (named entry among).mpr means⟩
    obtain ⟨first, found⟩ := Option.isSome_iff_exists.mp any
    have member := List.mem_of_find?_eq_some found
    have same := List.find?_some found
    have meant := (named first member).mp same
    have this := List.inj_on_of_nodup_map distinct member among (meant.symm.trans means)
    exact ⟨first, found, this ▸ carried⟩

theorem equalEntries_eq_all (entries others : List (Key × Value)) :
    equalEntries entries others =
      entries.all fun entry => (valueAt? others entry.1).any entry.2.equal := by
  induction entries with
  | nil => rfl
  | cons entry entries ih =>
      rw [equalEntries, List.all_cons, ih]
      cases valueAt? others entry.1 <;> rfl

/-- Mappings are equal if there are as many entries on both sides and each has a partner, which means
the same and holds an equal value. -/
theorem equal_mapping_iff (distinct : (others.map (·.1.meaning)).Nodup)
    (keys : ∀ entry ∈ entries, entry.1.IsData) (known : ∀ entry ∈ others, entry.1.IsData) :
    (mapping entries).equal (mapping others) = true ↔
      entries.length = others.length ∧ ∀ entry ∈ entries, ∃ partner ∈ others,
        entry.1.meaning = partner.1.meaning ∧ entry.2.equal partner.2 = true := by
  rw [equal, Bool.and_eq_true, beq_iff_eq, equalEntries_eq_all, List.all_eq_true]
  refine and_congr_right fun _ => forall₂_congr fun entry among => ?_
  rw [Option.any_eq_true]
  simp only [valueAt?_eq_some_iff distinct known (keys entry among)]
  constructor
  · rintro ⟨_, ⟨partner, member, means, rfl⟩, equal⟩
    exact ⟨partner, member, means, equal⟩
  · rintro ⟨partner, member, means, equal⟩
    exact ⟨_, ⟨partner, member, means, rfl⟩, equal⟩

/-- When each of the entries has its own meaning and a partner among as many others, each of the others
is a partner. -/
theorem exists_of_partners (distinct : (entries.map (·.1.meaning)).Nodup)
    (length : entries.length = others.length)
    (partners : ∀ entry ∈ entries, ∃ partner ∈ others, entry.1.meaning = partner.1.meaning)
    {partner : Key × Value} (member : partner ∈ others) :
    ∃ entry ∈ entries, entry.1.meaning = partner.1.meaning := by
  have among : entries.map (·.1.meaning) ⊆ others.map (·.1.meaning) := by
    intro meant found
    obtain ⟨entry, among, rfl⟩ := List.mem_map.mp found
    obtain ⟨partner, member, means⟩ := partners entry among
    exact List.mem_map.mpr ⟨partner, member, means.symm⟩
  have all := (List.subperm_of_subset distinct among).perm_of_length_le (by simp [length])
  exact List.mem_map.mp (all.mem_iff.mpr (List.mem_map_of_mem member))

end Mappings

variable {value other third : Value}

theorem equalItems_iff (items others : List Value) : equalItems items others = true ↔
    List.Forall₂ (fun item other => item.equal other = true) items others := by
  induction items generalizing others with
  | nil => cases others <;> simp [equalItems]
  | cons item items ih => cases others <;> simp [equalItems, ih]

theorem equal_self (data : value.IsData) : value.equal value = true := by
  induction data with
  | null | bool | int | string => simp [equal]
  | sequence kind all ih => exact (equalItems_iff _ _).mpr (List.forall₂_same.mpr ih)
  | mapping distinct keys _ ih =>
      refine (equal_mapping_iff (nodup_meanings distinct keys) keys keys).mpr ⟨rfl, ?_⟩
      exact fun entry among => ⟨entry, among, rfl, ih entry among⟩

theorem forall₂_of_common {items ones twos : List Value}
    (euclidean : ∀ item ∈ items, ∀ one ∈ ones, ∀ two ∈ twos, item.equal one = true →
      item.equal two = true → one.equal two = true)
    (first : List.Forall₂ (fun item one => item.equal one = true) items ones)
    (second : List.Forall₂ (fun item two => item.equal two = true) items twos) :
    List.Forall₂ (fun one two => one.equal two = true) ones twos := by
  induction first generalizing twos with
  | nil =>
      cases second
      exact .nil
  | cons left _ ih =>
      cases second with
      | cons right rest =>
          have head := euclidean _ (.head _) _ (.head _) _ (.head _) left right
          exact .cons head (ih (fun item among one member two known =>
            euclidean item (.tail _ among) one (.tail _ member) two (.tail _ known)) rest)

/-- Values that are equal to one are equal to each other. -/
theorem equal_of_common (data : value.IsData) (first : other.IsData) (second : third.IsData)
    (left : value.equal other = true) (right : value.equal third = true) :
    other.equal third = true := by
  induction data generalizing other third with
  | null =>
      cases first with
      | null => exact right
      | _ => simp [equal] at left
  | bool truth =>
      cases first with
      | bool =>
          rw [equal, beq_iff_eq] at left
          exact left ▸ right
      | _ => simp [equal] at left
  | int number =>
      cases first with
      | int =>
          rw [equal, Number.equal_int, decide_eq_true_eq] at left
          exact left ▸ right
      | _ => simp [equal] at left
  | string text safe =>
      cases first with
      | string =>
          rw [equal, beq_iff_eq] at left
          cases second with
          | string => simpa [equal, left] using right
          | _ => simp [equal] at right
      | _ => simp [equal] at left
  | @sequence kind items _ ih =>
      cases first with
      | sequence _ ones =>
          cases second with
          | sequence _ twos =>
              refine (equalItems_iff _ _).mpr (forall₂_of_common ?_
                ((equalItems_iff _ _).mp left) ((equalItems_iff _ _).mp right))
              intro item among one member two known
              exact ih item among (ones one member) (twos two known)
          | _ => simp [equal] at right
      | _ => simp [equal] at left
  | mapping distinct keys _ ih =>
      cases first with
      | mapping one_distinct one_keys ones =>
          cases second with
          | mapping two_distinct two_keys twos =>
              have one_nodup := nodup_meanings one_distinct one_keys
              have two_nodup := nodup_meanings two_distinct two_keys
              rw [equal_mapping_iff one_nodup keys one_keys] at left
              rw [equal_mapping_iff two_nodup keys two_keys] at right
              refine (equal_mapping_iff two_nodup one_keys two_keys).mpr
                ⟨left.1.symm.trans right.1, fun one member => ?_⟩
              -- The entry on the left whose partner this is leads to the partner on the right.
              obtain ⟨entry, among, means⟩ := exists_of_partners (nodup_meanings distinct keys) left.1
                (fun entry among => (left.2 entry among).imp fun _ partner => ⟨partner.1, partner.2.1⟩)
                member
              obtain ⟨partner, known, meant, equal⟩ := left.2 entry among
              obtain ⟨two, found, means_two, equal_two⟩ := right.2 entry among
              cases List.inj_on_of_nodup_map one_nodup known member (meant.symm.trans means)
              exact ⟨two, found, means.symm.trans means_two,
                ih entry among (ones _ member) (twos two found) equal equal_two⟩
          | _ => simp [Value.equal] at right
      | _ => simp [Value.equal] at left

theorem equal_symm (data : value.IsData) (known : other.IsData) (equal : value.equal other = true) :
    other.equal value = true :=
  equal_of_common data known data equal (equal_self data)

theorem equal_trans (data : value.IsData) (first : other.IsData) (second : third.IsData)
    (left : value.equal other = true) (right : other.equal third = true) :
    value.equal third = true :=
  equal_of_common first data second (equal_symm data first left) right

/-- The values differ at most in the order of entries, in the kinds of sequences and in the marks of
safe texts, at any depth. Keys may differ where the host takes them for one. -/
inductive Restyled : Value → Value → Prop where
  | same (value : Value) : Restyled value value
  | string (text : String) (safe marked : Bool) : Restyled (.string text safe) (.string text marked)
  | sequence (kind restyled : SequenceKind) {items others : List Value}
      (length : items.length = others.length)
      (each : ∀ pair ∈ items.zip others, Restyled pair.1 pair.2) :
      Restyled (.sequence kind items) (.sequence restyled others)
  | mapping {entries arranged others : List (Key × Value)} (order : arranged.Perm others)
      (length : entries.length = arranged.length)
      (keys : ∀ pair ∈ entries.zip arranged, pair.1.1.same pair.2.1 = true)
      (values : ∀ pair ∈ entries.zip arranged, Restyled pair.1.2 pair.2.2) :
      Restyled (.mapping entries) (.mapping others)

theorem Restyled.equal (restyled : Restyled value other) (data : value.IsData)
    (known : other.IsData) : value.equal other = true := by
  induction restyled with
  | same => exact equal_self data
  | string => simp [Value.equal]
  | sequence _ _ length _ ih =>
      cases data with
      | sequence _ all =>
          cases known with
          | sequence _ others =>
              refine (equalItems_iff _ _).mpr (List.forall₂_iff_zip.mpr ⟨length, fun {_ _} pair => ?_⟩)
              obtain ⟨left, right⟩ := List.of_mem_zip pair
              exact ih _ pair (all _ left) (others _ right)
  | mapping order length same _ ih =>
      cases data with
      | mapping _ keys values =>
          cases known with
          | mapping distinct known others =>
              refine (equal_mapping_iff (nodup_meanings distinct known) keys known).mpr
                ⟨length.trans order.length_eq, fun entry among => ?_⟩
              rw [← List.map_fst_zip (Nat.le_of_eq length)] at among
              obtain ⟨⟨entry, partner⟩, pair, rfl⟩ := List.mem_map.mp among
              obtain ⟨among, arranged⟩ := List.of_mem_zip pair
              have member := order.mem_iff.mp arranged
              have alike := Key.same_iff_meaning (keys entry among) (known partner member)
              have means := alike.mp (same _ pair)
              exact ⟨partner, member, means, ih _ pair (values entry among) (others partner member)⟩

/-- Equality is an equivalence. It tells neither the order of entries nor kinds of sequences nor marks
of safe texts apart, but a truth value from every number. -/
theorem equal_equivalence :
    Equivalence (fun value other : Data => value.1.equal other.1 = true) ∧
      (∀ value other third : Data, Restyled value.1 other.1 →
        value.1.equal third.1 = other.1.equal third.1 ∧
          third.1.equal value.1 = third.1.equal other.1) ∧
      ∀ truth number, (Value.bool truth).equal (.number number) = false ∧
        (Value.number number).equal (.bool truth) = false := by
  have equivalence : Equivalence fun value other : Data => value.1.equal other.1 = true :=
    ⟨fun value => equal_self value.2, fun {value other} => equal_symm value.2 other.2,
      fun {value other third} => equal_trans value.2 other.2 third.2⟩
  refine ⟨equivalence, fun value other third restyled => ?_, by simp [equal]⟩
  have alike : value.1.equal other.1 = true := restyled.equal value.2 other.2
  have back := equivalence.symm alike
  constructor
  · rw [Bool.eq_iff_iff]
    exact ⟨equivalence.trans back, equivalence.trans alike⟩
  · rw [Bool.eq_iff_iff]
    exact ⟨fun equal => equivalence.trans equal alike, fun equal => equivalence.trans equal back⟩

/-- Two spellings of a mapping with a mapping in it, and a third that both are equal to. -/
theorem equal_equivalence_nested :
    let value := mapping [(.string "a" true, .list [int 1, .string "x"]),
      (.bool true, mapping [(.tuple [.null], .null)])]
    let other := mapping [(.number (.int 1), mapping [(.tuple [.null], .null)]),
      (.string "a" false, .sequence .tuple [int 1, .string "x" true])]
    value.IsData ∧ other.IsData ∧ Restyled value other ∧
      value.equal value = other.equal value ∧ value.equal value = value.equal other := by
  intro value other
  have null : Key.IsData .null := .scalar trivial
  have inner : IsData (.mapping [(.tuple [.null], .null)]) :=
    .mapping (by decide) (by simpa using Key.IsData.tuple (by simpa)) (by simpa using IsData.null)
  have items (kind safe) : IsData (.sequence kind [int 1, .string "x" safe]) :=
    .sequence kind (by simpa using ⟨.int 1, .string "x" safe⟩)
  have text (safe) : (Key.string "a" safe).IsData := .scalar trivial
  have truth : (Key.bool true).IsData := .scalar trivial
  have one : (Key.number (.int 1)).IsData := .scalar trivial
  have data : value.IsData := .mapping (by decide) (by simpa using ⟨text true, truth⟩)
    (by simpa using ⟨items .list false, inner⟩)
  have known : other.IsData := .mapping (by decide) (by simpa using ⟨one, text false⟩)
    (by simpa using ⟨inner, items .tuple true⟩)
  have list : Restyled (.list [int 1, .string "x"]) (.sequence .tuple [int 1, .string "x" true]) :=
    .sequence .list .tuple rfl (by simpa using ⟨.same _, .string "x" false true⟩)
  have restyled : Restyled value other := by
    refine .mapping (List.Perm.swap _ _ []) rfl (by decide) ?_
    simpa using ⟨list, .same _⟩
  have both := equal_equivalence.2.1 ⟨value, data⟩ ⟨other, known⟩ ⟨value, data⟩ restyled
  exact ⟨data, known, restyled, both⟩

end Value

end Templating
