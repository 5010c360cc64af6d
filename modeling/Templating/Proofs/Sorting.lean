import Templating.Sorting

/-!
Sorting only reorders.
-/

namespace Templating.Sorting

variable {α : Type}

theorem runRest_append (less : α → α → Bool) (falling : Bool) (last : α) (items : List α) :
    (runRest (m := Id) (fun x y => pure (less x y)) falling last items).1 ++
      (runRest (m := Id) (fun x y => pure (less x y)) falling last items).2 = items := by
  induction items generalizing last with
  | nil => rfl
  | cons x rest ih =>
      rw [runRest, pure_bind]
      by_cases continues : less x last = falling
      · rw [if_pos continues]
        exact congrArg (x :: ·) (ih x)
      · rw [if_neg continues]
        rfl

theorem insertAll_perm (less : α → α → Bool) (sorted items : List α) :
    (insertAll (m := Id) (fun x y => pure (less x y)) sorted items).Perm (sorted ++ items) := by
  induction items generalizing sorted with
  | nil =>
      rw [List.append_nil]
      exact .refl _
  | cons x rest ih =>
      rw [insertAll]
      refine (ih _).trans ?_
      rw [List.append_assoc, List.cons_append]
      refine List.perm_middle.trans ?_
      rw [← List.append_assoc, List.take_append_drop]
      exact List.perm_middle.symm

theorem sort_perm (less : α → α → Bool) (items : List α) : (sort less items).Perm items := by
  unfold sort sortM
  split
  case h_1 x y rest =>
    rw [pure_bind]
    have whole := runRest_append less (less y x) y rest
    generalize runRest (m := Id) (fun x y => pure (less x y)) (less y x) y rest = parts at whole ⊢
    obtain ⟨run, after⟩ := parts
    refine (insertAll_perm less _ after).trans ?_
    rw [← whole, ← List.cons_append, ← List.cons_append]
    apply List.Perm.append_right
    by_cases falling : less y x
    · rw [if_pos falling]
      exact List.reverse_perm _
    · rw [if_neg falling]
  case h_2 => exact .refl _

theorem mem_sort {less : α → α → Bool} {items : List α} {item : α} :
    item ∈ sort less items ↔ item ∈ items :=
  (sort_perm less items).mem_iff

end Templating.Sorting
