import Templating.Grammar.Body
import Templating.Proofs.Canonical.Body
import Templating.Proofs.Grammar.ReadBack

/-!
The parts of directives that are not bodies read back: words, loop targets, bindings and names.
-/

namespace Templating.Grammar

open Templating.Parser Canonical

variable {refusals : Refusal → Prop} {β : Type} {lexemes : List Lexeme} {stop : Lexeme → Prop}
  {result : β → Prop} {names : List String}

/-- The lexemes of an expression are read as the expression if it nests less deep than the limit,
and only then. -/
theorem expression_accepts {limit : Int} {expr : Expr} (known : expr.WellFormed)
    (cut : CutUnless limit refusals (expr.nesting < limit.toNat)) :
    Accepts refusals (expression limit) (Canonical.lexemes expr) EndsExpression
      (fun read => read.unplaced = expr.unplaced ∧ expr.nesting < limit.toNat) :=
  (readsBack_of_primary (primary_accepts limit expr known) cut).2

theorem endsExpression_close (text : String) : EndsExpression (.blockClose, text) := by
  simp [EndsExpression]

namespace Accepts

theorem expression {limit : Int} {expr : Expr} {onwards : Expr → Parser β} {lexeme : Lexeme}
    (known : expr.WellFormed) (cut : CutUnless limit refusals (expr.nesting < limit.toNat))
    (ends : EndsExpression lexeme)
    (accepts : ∀ read : Expr, read.unplaced = expr.unplaced → expr.nesting < limit.toNat →
      Accepts refusals (onwards read) (lexeme :: lexemes) stop result names) :
    Accepts refusals (Grammar.expression limit >>= onwards)
      (Canonical.lexemes expr ++ lexeme :: lexemes) stop result names :=
  Accepts.bind (expression_accepts known cut) (fun read holds => accepts read holds.1 holds.2)
    (fun _ _ => ends)

theorem endTag {onwards : Unit → Parser β}
    (accepts : Accepts refusals (onwards ()) lexemes stop result names) :
    Accepts refusals (Grammar.endTag >>= onwards) ((.blockClose, "%\x7d") :: lexemes) stop result
      names := by
  rw [Grammar.endTag, bind_assoc]
  exact Accepts.expect (by decide) fun _ _ => accepts

theorem directive {word : String} {onwards : Token → Parser β}
    (accepts : ∀ token : Token, token.lexeme = (.keyword, word) →
      Accepts refusals (onwards token) lexemes stop result names) :
    Accepts refusals (Grammar.directive word >>= onwards)
      ((.blockOpen, "\x7b%") :: (.keyword, word) :: lexemes) stop result names := by
  rw [Grammar.directive, bind_assoc]
  apply Accepts.expect (by decide)
  intro _ _
  rw [bind_assoc]
  apply Accepts.current
  rintro ⟨kind, value, mark⟩ same
  obtain ⟨rfl, rfl⟩ := Prod.mk.inj same
  have word : Token.isKeyword ⟨.keyword, value, mark⟩ value = true := by simp [Token.isKeyword]
  rw [if_pos word]
  exact Accepts.advance (by simp) accepts

end Accepts

theorem loopTargets_accepts {targets : List String} (known : Node.TargetsWellFormed targets)
    (ends : ∀ lexeme, stop lexeme → lexeme.1 ≠ .comma) :
    Accepts refusals loopTargets (targetLexemes targets) stop (· = targets) := by
  obtain ⟨_, distinct, size⟩ := known
  rw [loopTargets]
  match targets, size with
  | [only], _ =>
      apply Accepts.expect (by decide)
      intro token same
      have spelled : token.value = only := congrArg Prod.snd same
      apply Accepts.acceptEnd ends
      exact Accepts.pure (by rw [spelled])
  | [first, second], _ =>
      apply Accepts.expect (by decide)
      intro token same
      have spelled : token.value = first := congrArg Prod.snd same
      apply Accepts.accept (by decide)
      apply Accepts.expect (by decide)
      intro other sameOther
      have spelledOther : other.value = second := congrArg Prod.snd sameOther
      have different : ¬ second = first := by
        rintro rfl
        simp at distinct
      rw [spelled, spelledOther, if_neg different]
      exact Accepts.pure rfl
  | [], size => simp at size
  | _ :: _ :: _ :: _, size => simp at size

/-- The pairs read so far are these, places aside. -/
def SamePairs (pairs : List (String × Expr)) (read : List (String × Expr)) : Prop :=
  read.map (fun entry => (entry.1, entry.2.unplaced)) =
    pairs.map fun entry => (entry.1, entry.2.unplaced)

theorem bindingPair_accepts {limit : Int} (name : String) {value : Expr} (known : value.WellFormed)
    (cut : CutUnless limit refusals (value.nesting < limit.toNat)) :
    Accepts refusals (bindingPair (expression limit)) (pairLexemes (name, value)) EndsExpression
      (fun read => (read.1 = name ∧ read.2.unplaced = value.unplaced) ∧
        value.nesting < limit.toNat) := by
  rw [bindingPair, pairLexemes]
  apply Accepts.expect (by decide)
  intro token same
  apply Accepts.expect (by decide)
  intro _ _
  rw [← List.append_nil (Canonical.lexemes _)]
  refine Accepts.bind (expression_accepts known cut) ?_ (fun _ ends => ends)
  rintro read ⟨sameRead, fits⟩
  exact Accepts.pure ⟨⟨congrArg Prod.snd same, sameRead⟩, fits⟩

theorem bindingsRest_accepts {limit : Int} {pairs : List (String × Expr)} (some : pairs ≠ [])
    (known : ∀ pair ∈ pairs, pair.2.WellFormed)
    (cut : CutUnless limit refusals (∀ pair ∈ pairs, pair.2.nesting < limit.toNat))
    (before : List (String × Expr)) {budget : Nat} (enough : pairs.length ≤ budget) :
    Accepts refusals (bindingsRest (expression limit) budget before)
      (commaLexemes (pairs.map pairLexemes)) (fun lexeme => lexeme.1 = .blockClose)
      (fun read => SamePairs (before ++ pairs) read ∧
        ∀ pair ∈ pairs, pair.2.nesting < limit.toNat) := by
  induction pairs generalizing before budget with
  | nil => exact absurd rfl some
  | cons pair pairs ih =>
      cases budget with
      | zero => simp at enough
      | succ budget =>
          have part := cut.mono List.forall_mem_cons.mp
          have reads := bindingPair_accepts pair.1 (known pair List.mem_cons_self)
            (part.mono And.left)
          rw [bindingsRest]
          cases pairs with
          | nil =>
              rw [List.map_singleton, commaLexemes, ← List.append_nil (pairLexemes pair)]
              refine Accepts.bind reads ?_ (fun lexeme close => by
                simp only [List.head?_nil, Option.getD_none]
                simp [EndsExpression, close])
              rintro read ⟨same, fits⟩
              apply Accepts.acceptEnd (fun lexeme close => by rw [close]; decide)
              exact Accepts.pure ⟨by simp [SamePairs, same.1, same.2],
                List.forall_mem_singleton.mpr fits⟩
          | cons second pairs =>
              rw [List.map_cons, List.map_cons, commaLexemes]
              refine Accepts.bind reads ?_ (fun _ _ => by simp [EndsExpression])
              rintro read ⟨same, fits⟩
              apply Accepts.accept (by decide)
              apply (ih (List.cons_ne_nil _ _)
                (fun other member => known other (List.mem_cons_of_mem _ member))
                (part.mono And.right) (before ++ [read])
                (Nat.le_of_succ_le_succ enough)).mono (fun _ close => close)
              rintro all ⟨sameAll, rest⟩
              exact ⟨by simpa [SamePairs, same.1, same.2] using sameAll,
                List.forall_mem_cons.mpr ⟨fits, rest⟩⟩

theorem lookup_eq_none {blocks : List (String × Mark)} {name : String}
    (fresh : name ∉ blocks.map (·.1)) : blocks.lookup name = none := by
  induction blocks with
  | nil => rfl
  | cons block blocks ih =>
      rw [List.map_cons, List.mem_cons, not_or] at fresh
      rw [List.lookup_cons, beq_false_of_ne fresh.1]
      exact ih fresh.2

theorem get_bind {α : Type} (rest : Cursor → Parser α) (cursor : Cursor) :
    ((get : Parser Cursor) >>= rest) cursor = rest cursor cursor :=
  rfl

theorem openBlock_fresh {name : Token} {cursor : Cursor}
    (fresh : cursor.blocks.lookup name.value = none) :
    openBlock name cursor =
      .ok ((), { cursor with blocks := (name.value, name.mark) :: cursor.blocks }) := by
  rw [openBlock, get_bind, fresh]
  rfl

theorem openBlock_taken {name : Token} {cursor : Cursor} {first : Mark}
    (taken : cursor.blocks.lookup name.value = some first) :
    openBlock name cursor =
      .error (.duplicateBlock name.value first.line first.column, name) := by
  rw [openBlock, get_bind, taken]
  rfl

theorem openBlock_accepts (token : Token) :
    Accepts refusals (openBlock token) [] stop (fun _ => True) [token.value] := by
  intro cursor tokens following rest same _ _ fresh
  obtain rfl := List.map_eq_nil_iff.mp same
  have absent : cursor.blocks.lookup token.value = none := by
    apply lookup_eq_none
    intro member
    exact (List.nodup_append.mp fresh).2.2 _ member _ List.mem_cons_self rfl
  refine .inl ⟨(), (token.value, token.mark) :: cursor.blocks, trivial, ?_, ?_⟩
  · rw [List.map_cons]
    exact (List.perm_append_singleton _ _).symm
  · exact openBlock_fresh absent

end Templating.Grammar
