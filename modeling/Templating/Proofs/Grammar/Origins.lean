import Templating.Proofs.Grammar.StandingBody
import Templating.Proofs.Lexer.Marks

/-!
Where a compiled template comes from: everything in it has the place of a token of its text. A text
that does not compile is blamed on a place in it.
-/

namespace Templating

open Node

/-- One of the tokens has this mark. -/
def MarksOf (tokens : List Token) (mark : Mark) : Prop :=
  ∃ token ∈ tokens, token.mark = mark

theorem Cursor.over_ofTokens (name : String) {tokens : List Token} (nonempty : tokens ≠ []) :
    (Cursor.ofTokens name tokens).Over name (MarksOf tokens) := by
  refine ⟨rfl, fun token member => ⟨token, member, rfl⟩, ?_⟩
  rw [ofTokens, List.getLast?_eq_some_getLast nonempty]
  exact ⟨_, List.getLast_mem nonempty, rfl⟩

namespace Grammar

variable {body settled : List Node}

/-- Settling the parent drops nodes at the start, if any. -/
theorem settleParent_suffix (settles : settleParent body = .ok settled) : settled <:+ body := by
  rw [settleParent_eq_match] at settles
  split at settles
  case h_1 starts =>
    split at settles <;> cases settles
    rw [← starts]
    exact List.dropWhile_suffix _
  case h_2 =>
    split at settles <;> cases settles
    exact List.suffix_refl _

/-- A parent that is out of place is blamed itself. -/
theorem settleParent_blames {place : Option Position} (fails : settleParent body = .error place) :
    ∃ node ∈ body, node.position = place := by
  rw [settleParent_eq_match] at fails
  split at fails
  case h_1 name position rest starts =>
    split at fails <;> cases fails
    case h_1.refl misplaced found =>
      refine ⟨misplaced, (List.dropWhile_suffix isBlankText).subset ?_, rfl⟩
      rw [starts]
      exact List.mem_cons_of_mem _ (List.mem_of_find?_eq_some found)
  case h_2 =>
    split at fails <;> cases fails
    case h_1.refl misplaced found => exact ⟨misplaced, List.mem_of_find?_eq_some found, rfl⟩

end Grammar

namespace Template

open Grammar

section

variable {limit : Int} {name source : String} {tokens : List Token}

theorem parsed_of_ofTokens {template : Template}
    (read : ofTokens limit name source tokens = .ok template) :
    ∃ body last after, bodyAt limit limit.toNat [] [] (Cursor.ofTokens name tokens) =
      .ok ((body, last), after) ∧ template.body <:+ body := by
  unfold ofTokens at read
  split at read
  · cases read
  case h_2 parsed =>
    split at read <;> cases read
    case h_2.refl settles => exact ⟨_, _, _, parsed, settleParent_suffix settles⟩

variable (nonempty : tokens ≠ [])

include nonempty

theorem ofTokens_stands {template : Template}
    (read : ofTokens limit name source tokens = .ok template) :
    BodyStands name (MarksOf tokens) template.body := by
  have lands := bodyAt_stays limit limit.toNat (List.forall_mem_nil _) []
    (Cursor.over_ofTokens name nonempty)
  obtain ⟨body, last, after, parsed, kept⟩ := parsed_of_ofTokens read
  rw [parsed] at lands
  exact bodyThroughout_iff.mpr fun node member =>
    bodyThroughout_iff.mp lands.2.1 node (kept.subset member)

theorem ofTokens_blames {fault : Fault}
    (fails : ofTokens limit name source tokens = .error fault) :
    ∃ cause mark, fault = .of cause (some ⟨name, mark⟩) (some source) ∧ MarksOf tokens mark := by
  have lands := bodyAt_stays limit limit.toNat (List.forall_mem_nil _) []
    (Cursor.over_ofTokens name nonempty)
  unfold ofTokens at fails
  split at fails
  case h_1 refused =>
    rw [refused] at lands
    cases fails
    exact ⟨_, _, rfl, lands⟩
  case h_2 parsed =>
    rw [parsed] at lands
    split at fails <;> cases fails
    case h_1.refl place settles =>
      obtain ⟨node, member, rfl⟩ := settleParent_blames settles
      have stands := (throughout_stands_iff.mp (bodyThroughout_iff.mp lands.2.1 node member)).1
      obtain ⟨mark, same, marked⟩ := (stands_iff.mp stands).1
      exact ⟨_, mark, by rw [same], marked⟩

end

variable {delimiters : Delimiters} {limit : Int} {name source : String}

theorem tokenize_marks {tokens : List Token}
    (tokenized : tokenize delimiters name source = .ok tokens) :
    tokens ≠ [] ∧ ∀ token ∈ tokens, token.mark.IsIn source.toList := by
  unfold tokenize at tokenized
  split at tokenized <;> cases tokenized
  case h_1.refl lexed => exact (Lexer.tokens_within delimiters source).of_ok lexed

/-- All places in a compiled template are those of tokens of its text. -/
theorem compile_stands {template : Template}
    (compiled : compile delimiters limit name source = .ok template) :
    ∃ tokens, tokenize delimiters name source = .ok tokens ∧
      BodyStands name (MarksOf tokens) template.body := by
  obtain ⟨tokens, tokenized, read⟩ := Outcome.bind_eq_ok.mp compiled
  exact ⟨tokens, tokenized, ofTokens_stands (tokenize_marks tokenized).1 read⟩

/-- A text that does not compile is blamed on a place in it, and the line there is quoted. -/
theorem compile_blames {fault : Fault}
    (fails : compile delimiters limit name source = .error fault) :
    ∃ cause mark, fault = .of cause (some ⟨name, mark⟩) (some source) ∧
      mark.IsIn source.toList := by
  rw [compile] at fails
  cases tokenized : tokenize delimiters name source with
  | ok tokens =>
      rw [tokenized, Outcome.ok_bind] at fails
      obtain ⟨nonempty, standing⟩ := tokenize_marks tokenized
      obtain ⟨cause, _, same, token, member, rfl⟩ := ofTokens_blames nonempty fails
      exact ⟨cause, _, same, standing token member⟩
  | error other =>
      rw [tokenized, Outcome.error_bind] at fails
      cases fails
      unfold tokenize at tokenized
      split at tokenized <;> cases tokenized
      case h_2.refl stopped =>
        exact ⟨_, _, rfl, (Lexer.tokens_within delimiters source).of_error stopped⟩

end Template

end Templating
