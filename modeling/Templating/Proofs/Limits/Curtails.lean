import Templating.Grammar.Cursor
import Templating.Proofs.Outcome
import Templating.Proofs.Run

/-!
Two runs of one computation, the first under a limit: it ends as the second one does, or the limit
cuts it off, which is a failure of its own kind. Everything that is put together from such pairs of
runs is such a pair.
-/

namespace Templating

section

variable {ε α β : Type}

/-- The first computation ends as the second one, unless it is cut off. -/
def Outcome.Curtails (cut : ε → Prop) (first second : Except ε α) : Prop :=
  (∃ failure, first = .error failure ∧ cut failure) ∨ first = second

namespace Outcome.Curtails

variable {cut : ε → Prop} {first second : Except ε α}

theorem refl (outcome : Except ε α) : Curtails cut outcome outcome :=
  .inr rfl

theorem error {failure : ε} (allowed : cut failure) :
    Curtails cut (.error failure : Except ε α) second :=
  .inl ⟨failure, rfl, allowed⟩

theorem bind {next other : α → Except ε β} (curtails : Curtails cut first second)
    (continues : ∀ value, Curtails cut (next value) (other value)) :
    Curtails cut (first >>= next) (second >>= other) := by
  rcases curtails with ⟨failure, rfl, allowed⟩ | rfl
  · exact error allowed
  · cases first with
    | ok value => exact continues value
    | error failure => exact refl _

theorem mapError {δ : Type} {further : δ → Prop} {change : ε → δ}
    (curtails : Curtails cut first second)
    (stays : ∀ failure, cut failure → further (change failure)) :
    Curtails further (first.mapError change) (second.mapError change) := by
  rcases curtails with ⟨failure, rfl, allowed⟩ | rfl
  · exact error (stays failure allowed)
  · exact refl _

end Outcome.Curtails

end

section

variable {α β : Type} {cut : Refusal → Prop}

/-- From every cursor the first parser ends as the second one, unless it is cut off. -/
def Parser.Curtails (cut : Refusal → Prop) (first second : Parser α) : Prop :=
  ∀ cursor, Outcome.Curtails cut (first cursor) (second cursor)

namespace Parser.Curtails

variable {first second : Parser α}

theorem refl (parser : Parser α) : Curtails cut parser parser :=
  fun _ => .refl _

theorem refuse {cause : GrammarCause} {token : Token} (allowed : cut (cause, token)) :
    Curtails cut (Parser.refuse cause token) second :=
  fun _ => .error allowed

theorem bind {next other : α → Parser β} (curtails : Curtails cut first second)
    (continues : ∀ value, Curtails cut (next value) (other value)) :
    Curtails cut (first >>= next) (second >>= other) :=
  fun cursor => (curtails cursor).bind fun result => continues result.1 result.2

/-- After a step in common. -/
theorem after (step : Parser α) {next other : α → Parser β}
    (continues : ∀ value, Curtails cut (next value) (other value)) :
    Curtails cut (step >>= next) (step >>= other) :=
  (refl step).bind continues

theorem ite {condition : Prop} [Decidable condition] {third fourth : Parser α}
    (yes : Curtails cut first second) (no : Curtails cut third fourth) :
    Curtails cut (if condition then first else third) (if condition then second else fourth) := by
  split
  · exact yes
  · exact no

end Parser.Curtails

end

section

variable {ε σ α β : Type} {cut : ε → Prop}

/-- From every state the first run ends as the second one and leaves the same state, unless it is
cut off. -/
def Run.Curtails (cut : ε → Prop) (first second : ExceptT ε (StateM σ) α) : Prop :=
  ∀ before, (∃ failure after, first before = (.error failure, after) ∧ cut failure) ∨
    first before = second before

namespace Run.Curtails

variable {first second : ExceptT ε (StateM σ) α} {next other : α → ExceptT ε (StateM σ) β}

theorem refl (run : ExceptT ε (StateM σ) α) : Curtails cut run run :=
  fun _ => .inr rfl

theorem throw {failure : ε} (allowed : cut failure) :
    Curtails cut (throw failure : ExceptT ε (StateM σ) α) second :=
  fun before => .inl ⟨failure, before, rfl, allowed⟩

theorem bind (curtails : Curtails cut first second)
    (continues : ∀ value, Curtails cut (next value) (other value)) :
    Curtails cut (first >>= next) (second >>= other) := by
  intro before
  rcases curtails before with ⟨failure, after, fails, allowed⟩ | same
  · exact .inl ⟨failure, after, bind_error fails, allowed⟩
  · cases run : first before with
    | mk outcome between =>
        cases outcome with
        | ok value =>
            rw [bind_ok run, bind_ok (same ▸ run)]
            exact continues value between
        | error failure =>
            rw [bind_error run, bind_error (same ▸ run)]
            exact .inr rfl

/-- After a step in common. -/
theorem after (step : ExceptT ε (StateM σ) α)
    (continues : ∀ value, Curtails cut (next value) (other value)) :
    Curtails cut (step >>= next) (step >>= other) :=
  (refl step).bind continues

theorem ite {condition : Prop} [Decidable condition] {third fourth : ExceptT ε (StateM σ) α}
    (yes : Curtails cut first second) (no : Curtails cut third fourth) :
    Curtails cut (if condition then first else third) (if condition then second else fourth) := by
  split
  · exact yes
  · exact no

/-- The outcomes of the runs are such a pair. -/
theorem outcome (curtails : Curtails cut first second) (before : σ) :
    Outcome.Curtails cut (first before).1 (second before).1 := by
  rcases curtails before with ⟨failure, after, fails, allowed⟩ | same
  · rw [fails]
    exact .error allowed
  · rw [same]
    exact .refl _

end Run.Curtails

end

end Templating
