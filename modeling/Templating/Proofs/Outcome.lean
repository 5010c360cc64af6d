/-!
Opening computations that can fail: a chain of steps gives a result exactly when every step does.
-/

namespace Templating.Outcome

variable {ε α β γ : Type}

@[simp] theorem ok_bind (value : α) (next : α → Except ε β) :
    ((Except.ok value : Except ε α) >>= next) = next value :=
  rfl

@[simp] theorem error_bind (failure : ε) (next : α → Except ε β) :
    ((Except.error failure : Except ε α) >>= next) = .error failure :=
  rfl

@[simp] theorem map_ok (value : α) (change : α → β) :
    (Except.ok value : Except ε α).map change = .ok (change value) :=
  rfl

@[simp] theorem map_error (failure : ε) (change : α → β) :
    (Except.error failure : Except ε α).map change = .error failure :=
  rfl

@[simp] theorem map_map (outcome : Except ε α) (change : α → β) (further : β → γ) :
    (outcome.map change).map further = outcome.map fun value => further (change value) := by
  cases outcome <;> rfl

theorem map_eq_ok {outcome : Except ε α} {change : α → β} {value : β} :
    outcome.map change = .ok value ↔ ∃ result, outcome = .ok result ∧ change result = value := by
  cases outcome <;> simp

theorem map_eq_error {outcome : Except ε α} {change : α → β} {failure : ε} :
    outcome.map change = .error failure ↔ outcome = .error failure := by
  cases outcome <;> simp

theorem mapError_eq_ok {δ : Type} {outcome : Except ε α} {change : ε → δ} {value : α} :
    outcome.mapError change = .ok value ↔ outcome = .ok value := by
  cases outcome with
  | ok result =>
      constructor <;>
        intro same <;>
        cases same <;>
        rfl
  | error fault =>
      constructor <;>
        intro same <;>
        cases same

theorem toOption_eq_some {outcome : Except ε α} {value : α} :
    outcome.toOption = some value ↔ outcome = .ok value := by
  cases outcome <;> simp [Except.toOption]

theorem bind_eq_ok {outcome : Except ε α} {next : α → Except ε β} {value : β} :
    outcome >>= next = .ok value ↔ ∃ result, outcome = .ok result ∧ next result = .ok value := by
  cases outcome <;> simp

theorem bind_map (outcome : Except ε α) (next : α → Except ε β) (change : β → γ) :
    (outcome >>= next).map change = outcome >>= fun value => (next value).map change := by
  cases outcome <;> rfl

/-- The computation succeeds only with results that satisfy the condition. -/
def Gives (outcome : Except ε α) (post : α → Prop) : Prop :=
  ∀ value, outcome = .ok value → post value

namespace Gives

variable {outcome : Except ε α} {next : α → Except ε β}

theorem ok {value : α} {post : α → Prop} (holds : post value) :
    Gives (.ok value : Except ε α) post := by
  intro result same
  cases same
  exact holds

theorem error {failure : ε} {post : α → Prop} : Gives (.error failure : Except ε α) post := by
  intro result same
  cases same

theorem bind {first : α → Prop} {post : β → Prop} (gives : Gives outcome first)
    (continues : ∀ value, first value → Gives (next value) post) :
    Gives (outcome >>= next) post := by
  intro result same
  obtain ⟨value, run, runNext⟩ := bind_eq_ok.mp same
  exact continues value (gives value run) result runNext

theorem anyBind {post : β → Prop} (continues : ∀ value, Gives (next value) post) :
    Gives (outcome >>= next) post := by
  intro result same
  obtain ⟨value, _, runNext⟩ := bind_eq_ok.mp same
  exact continues value result runNext

end Gives

/-- The computation fails only in ways that are allowed. -/
def Fails (outcome : Except ε α) (allowed : ε → Prop) : Prop :=
  ∀ failure, outcome = .error failure → allowed failure

namespace Fails

variable {outcome : Except ε α} {next : α → Except ε β} {allowed : ε → Prop}

theorem ok {value : α} : Fails (.ok value : Except ε α) allowed := by
  intro failure same
  cases same

theorem error {failure : ε} (holds : allowed failure) :
    Fails (.error failure : Except ε α) allowed := by
  intro other same
  cases same
  exact holds

/-- What follows is only run on what the first computation gives. -/
theorem bindOk (fails : Fails outcome allowed)
    (continues : ∀ value, outcome = .ok value → Fails (next value) allowed) :
    Fails (outcome >>= next) allowed := by
  cases outcome with
  | ok value => exact continues value rfl
  | error failure => exact error (fails failure rfl)

theorem bind (fails : Fails outcome allowed) (continues : ∀ value, Fails (next value) allowed) :
    Fails (outcome >>= next) allowed :=
  fails.bindOk fun value _ => continues value

theorem mapM {action : α → Except ε β} {items : List α}
    (each : ∀ item ∈ items, Fails (action item) allowed) : Fails (items.mapM action) allowed := by
  induction items with
  | nil => exact ok
  | cons item items ih =>
      obtain ⟨first, others⟩ := List.forall_mem_cons.mp each
      rw [List.mapM_cons]
      exact bind first fun _ => bind (ih others) fun _ => ok

end Fails

end Templating.Outcome
