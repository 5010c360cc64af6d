/-!
Runs that can fail and that change a state: what a run that succeeds keeps of the state, and what
holds of its result.
-/

namespace Templating

/-- From a state with the invariant the run succeeds only with results that satisfy the condition,
and in a state with the invariant again. -/
def Maintains {ε σ α : Type} (invariant : σ → Prop) (run : ExceptT ε (StateM σ) α)
    (post : α → Prop) : Prop :=
  ∀ ⦃before : σ⦄ ⦃value : α⦄ ⦃after : σ⦄, invariant before →
    run before = (.ok value, after) → invariant after ∧ post value

namespace Run

variable {ε σ α β : Type} {run : ExceptT ε (StateM σ) α} {next : α → ExceptT ε (StateM σ) β}

theorem bind_ok {before between : σ} {value : α} (first : run before = (.ok value, between)) :
    (run >>= next) before = next value between := by
  simp [bind, ExceptT.bind, ExceptT.mk, ExceptT.bindCont, StateT.bind, first]

theorem bind_error {before between : σ} {failure : ε}
    (first : run before = (.error failure, between)) :
    (run >>= next) before = (.error failure, between) := by
  simp [bind, ExceptT.bind, ExceptT.mk, ExceptT.bindCont, StateT.bind, first]
  rfl

theorem bind_eq_ok {before after : σ} {value : β} :
    (run >>= next) before = (.ok value, after) ↔
      ∃ result between, run before = (.ok result, between) ∧
        next result between = (.ok value, after) := by
  cases first : run before with
  | mk outcome between =>
      cases outcome with
      | ok result =>
          rw [bind_ok first]
          constructor
          · intro rest
            exact ⟨result, between, rfl, rest⟩
          · intro some
            obtain ⟨other, middle, same, rest⟩ := some
            cases same
            exact rest
      | error failure =>
          rw [bind_error first]
          constructor
          · intro same
            cases same
          · intro some
            obtain ⟨other, middle, same, rest⟩ := some
            cases same

theorem bind_congr {other : ExceptT ε (StateM σ) α} {before : σ}
    (same : run before = other before) : (run >>= next) before = (other >>= next) before := by
  cases ran : other before with
  | mk outcome between =>
      cases outcome with
      | ok value => rw [bind_ok (same.trans ran), bind_ok ran]
      | error failure => rw [bind_error (same.trans ran), bind_error ran]

theorem get_bind {next : σ → ExceptT ε (StateM σ) β} {before : σ} :
    (get >>= next) before = next before before :=
  rfl

end Run

namespace Maintains

variable {ε σ α β : Type} {invariant : σ → Prop} {run : ExceptT ε (StateM σ) α}
  {next : α → ExceptT ε (StateM σ) β}

theorem pure {value : α} {post : α → Prop} (holds : post value) :
    Maintains invariant (pure value : ExceptT ε (StateM σ) α) post := by
  intro before result after kept same
  cases same
  exact ⟨kept, holds⟩

theorem throwBind {failure : ε} {post : β → Prop} :
    Maintains invariant ((throw failure : ExceptT ε (StateM σ) α) >>= next) post := by
  intro before value after kept same
  cases same

theorem throw {failure : ε} {post : α → Prop} :
    Maintains invariant (throw failure : ExceptT ε (StateM σ) α) post := by
  intro before result after kept same
  cases same

theorem bind {first : α → Prop} {post : β → Prop} (maintains : Maintains invariant run first)
    (continues : ∀ value, first value → Maintains invariant (next value) post) :
    Maintains invariant (run >>= next) post := by
  intro before value after kept same
  obtain ⟨result, between, runFirst, runNext⟩ := Run.bind_eq_ok.mp same
  obtain ⟨keptBetween, holds⟩ := maintains kept runFirst
  exact continues result holds keptBetween runNext

theorem get {next : σ → ExceptT ε (StateM σ) β} {post : β → Prop}
    (continues : ∀ state, invariant state → Maintains invariant (next state) post) :
    Maintains invariant (get >>= next) post :=
  fun before _ _ kept same => continues before kept kept same

theorem modify {change : σ → σ} {next : PUnit → ExceptT ε (StateM σ) β} {post : β → Prop}
    (keeps : ∀ state, invariant state → invariant (change state))
    (continues : Maintains invariant (next ⟨⟩) post) :
    Maintains invariant (modify change >>= next) post :=
  fun before _ _ kept same => continues (keeps before kept) same

theorem forM {items : List α} {action : α → ExceptT ε (StateM σ) PUnit}
    (each : ∀ item ∈ items, Maintains invariant (action item) fun _ => True) :
    Maintains invariant (items.forM action) fun _ => True := by
  induction items with
  | nil => exact pure trivial
  | cons item items ih =>
      obtain ⟨first, rest⟩ := List.forall_mem_cons.mp each
      exact bind first fun _ _ => ih rest

end Maintains

end Templating
