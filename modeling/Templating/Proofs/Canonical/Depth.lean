import Mathlib
import Templating.Proofs.Canonical.RoundTrip
import Templating.Proofs.Grammar.Compiled

/-!
Canonical source under the limit that the source text was read under. Every operation and every
filter stands in parentheses there, and parentheses nest, so a template whose source is flat may nest
too deep in its canonical source.
-/

namespace Templating

/-- A sum of ones with so many signs, which associates to the left. -/
inductive Expr.IsSum : Nat → Expr → Prop where
  | one {position : Option Position} : IsSum 0 (.literal (.number (.int 1)) position)
  | add {count : Nat} {left right : Expr} {position : Option Position} (sum : IsSum count left)
      (last : IsSum 0 right) : IsSum (count + 1) (.binary (.arithmetic .add) left right position)

namespace Expr.IsSum

variable {count : Nat} {expr : Expr}

theorem of_unplaced (same : expr.unplaced = .literal (.number (.int 1)) none) : expr.IsSum 0 := by
  cases expr with
  | literal value position =>
      cases same
      exact .one
  | reference | list | binary | unary | filter => cases same

/-- Every sign of the sum is a level in its canonical source. -/
theorem nesting (sum : expr.IsSum count) : expr.nesting = count := by
  induction sum with
  | one => rfl
  | add _ _ left right => simp [Expr.nesting, left, right]

theorem spellable (sum : expr.IsSum count) : expr.Spellable := by
  induction sum with
  | one => trivial
  | add _ _ left right => exact ⟨left, right⟩

end Expr.IsSum

namespace Canonical

open Lexer

/-- So many further terms of a sum, without parentheses. -/
def termsText : Nat → String
  | 0 => ""
  | count + 1 => " " ++ (BinaryOperator.arithmetic .add).symbol ++ " " ++ "1" ++ termsText count

def termsLexemes : Nat → List Lexeme
  | 0 => []
  | count + 1 => operatorLexeme (.arithmetic .add) :: (.number, "1") :: termsLexemes count

/-- A sum of ones with so many signs, without parentheses. -/
def sumText (count : Nat) : String :=
  "1" ++ termsText count

theorem isLiteral_one : (Value.number (.int 1)).IsLiteral :=
  ⟨by decide, Nat.one_lt_pow (by decide) (by decide)⟩

theorem endsLexeme_terms (count : Nat) {rest : List Char} (ends : EndsLexeme rest) :
    EndsLexeme ((termsText count).toList ++ rest) := by
  cases count with
  | zero => exact ends
  | succ count =>
      simp only [termsText, String.toList_append, List.append_assoc]
      exact endsLexeme_space _

theorem spells_one {tag : TagEnd} (usual : tag.IsUsual) : Spells tag "1" [(.number, "1")] :=
  spells_literal usual isLiteral_one

theorem reads_terms {tag : TagEnd} (usual : tag.IsUsual) (count : Nat) {rest : List Char}
    (ends : EndsLexeme rest) :
    ReadsAs tag (termsText count).toList rest (termsLexemes count) := by
  induction count with
  | zero => exact ReadsAs.nil
  | succ count ih =>
      have term := (spells_one usual _ (endsLexeme_terms count ends)).append ih
      have sign := reads_operator usual ("1".toList ++ (termsText count).toList ++ rest)
        (.arithmetic .add) (by decide)
      simpa [termsText, termsLexemes] using ReadsAs.blank.append (sign.append term)

theorem spells_sum {tag : TagEnd} (usual : tag.IsUsual) (count : Nat) :
    Spells tag (sumText count) ((.number, "1") :: termsLexemes count) := by
  intro rest ends
  rw [sumText, String.toList_append]
  exact (spells_one usual _ (endsLexeme_terms count ends)).append (reads_terms usual count ends)

end Canonical

namespace Grammar

open Templating.Parser Canonical

variable {refusals : Refusal → Prop}

/-- A sum goes on or ends. -/
def GoesOn (lexeme : Lexeme) : Prop :=
  lexeme = operatorLexeme (.arithmetic .add) ∨ EndsExpression lexeme

theorem goesOn_terms (count : Nat) (lexeme : Lexeme) (ends : EndsExpression lexeme) :
    GoesOn ((termsLexemes count).head?.getD lexeme) := by
  cases count with
  | zero => exact .inr ends
  | succ count => exact .inl rfl

theorem one_accepts (limit : Int) (depth : Nat) :
    Accepts refusals (binaryLevel productOperator? (unaryAt limit depth)) [(.number, "1")] GoesOn
      (Expr.IsSum 0) := by
  have literal : Accepts refusals (primary (wholeAt limit depth)) [(.number, "1")] (fun _ => True)
      (Expr.IsSum 0) :=
    (primary_literal isLiteral_one).mono (fun _ ends => ends)
      (fun _ same => Expr.IsSum.of_unplaced same)
  apply binaryLevel_pass ((unaryAt_accepts (by decide) literal).mono (fun _ _ => trivial)
    (fun _ holds => holds))
  rintro ⟨kind, value, mark⟩ (same | ends)
  · obtain ⟨rfl, rfl⟩ := Prod.mk.inj same
    rfl
  · exact ends.levels _ (by simp [levels])

/-- The terms of a sum are read one after the other, without any nesting. -/
theorem terms_accepts (limit : Int) (depth : Nat) (count : Nat) {before : Nat} {value : Expr}
    (sum : value.IsSum before) {budget : Nat} (enough : count ≤ budget) :
    Accepts refusals
      (binaryRest sumOperator? (binaryLevel productOperator? (unaryAt limit depth)) budget value)
      (termsLexemes count) EndsExpression (Expr.IsSum (before + count)) := by
  induction count generalizing before value budget with
  | zero => exact binaryRest_stop budget sum fun token ends => ends.levels _ (by simp [levels])
  | succ count ih =>
      cases budget with
      | zero => exact absurd enough (Nat.not_succ_le_zero _)
      | succ budget =>
          rw [binaryRest, termsLexemes]
          apply Accepts.current
          rintro ⟨kind, value, mark⟩ same
          obtain ⟨rfl, rfl⟩ := Prod.mk.inj same
          show Accepts refusals (advance >>= _) _ _ _
          apply Accepts.advance (by decide)
          intro _ _
          refine Accepts.bind (one_accepts limit depth) ?_ (goesOn_terms count)
          intro right last
          apply Accepts.position
          intro position
          rw [Nat.add_comm count, ← Nat.add_assoc]
          exact ih (.add sum last) (Nat.le_of_succ_le_succ enough)

theorem length_termsLexemes (count : Nat) : (termsLexemes count).length = 2 * count := by
  induction count with
  | zero => rfl
  | succ count ih => simp only [termsLexemes, List.length_cons, ih]; omega

/-- One level is enough for a sum without parentheses, however long it is. -/
theorem sum_accepts {limit : Int} (some : 0 < limit) (count : Nat) :
    Accepts refusals (expression limit) ((.number, "1") :: termsLexemes count) EndsExpression
      (Expr.IsSum count) := by
  obtain ⟨depth, same⟩ := Nat.exists_eq_add_of_le' (Int.pos_iff_toNat_pos.mp some)
  rw [expression, same, wholeAt_succ]
  apply filtered_accepts _ (fun _ ends => ends.ne (by decide))
  show Accepts refusals ([orOperator?, andOperator?, comparisonOperator?].foldr binaryLevel
    (binaryLevel sumOperator? (binaryLevel productOperator? (unaryAt limit depth)))) _ _ _
  apply climb_pass _ (fun level known token ends => ends.levels level
    (List.mem_append_left [sumOperator?, productOperator?] known))
  rw [binaryLevel]
  refine Accepts.bind (one_accepts limit depth) ?_ (goesOn_terms count)
  intro value one
  apply Accepts.size
  intro budget turns
  rw [length_termsLexemes] at turns
  simpa using terms_accepts limit depth count one (by omega)

end Grammar

namespace Template

open Node Grammar Lexer Canonical

theorem nestsWithin_of_compile {limit : Int} {name source : String} {template : Template}
    (compiled : compile {} limit name source = .ok template) :
    NestsWithin limit.toNat template.body :=
  fun _ _ inside => (isParsed_of_compile compiled).wellFormed.nesting inside

/-- Under the limit that a template was compiled under, its canonical source is read as the same body
if no expression in it nests as deep as the limit; if one does, the limit is exceeded. -/
theorem compile_toSource_limit {limit : Int} {name source : String} {template : Template}
    (compiled : compile {} limit name source = .ok template)
    (spellable : BodySpellable template.body) :
    (BodyShallow limit.toNat template.body ∧
      ∃ again, compile {} limit name (template.toSource {}) = .ok again ∧
        unplacedBody again.body = unplacedBody template.body) ∨
    (¬ BodyShallow limit.toNat template.body ∧
      ∃ fault, compile {} limit name (template.toSource {}) = .error fault ∧
        IsTooDeep limit fault) := by
  obtain ⟨faithful, distinct, first⟩ := isRead_of_compile compiled
  exact compile_source_limit (faithful.wellFormed spellable) distinct first
    (nestsWithin_of_compile compiled) name

/-- Three terms need no nesting in the source text, but two levels in canonical source. -/
theorem compile_toSource_limit_sum : ∃ template,
    compile {} 2 "sum" "\x7b\x7b 1 + 2 + 3 \x7d\x7d" = .ok template ∧
    BodySpellable template.body ∧
    ∃ fault, compile {} 2 "sum" (template.toSource {}) = .error fault ∧ IsTooDeep 2 fault := by
  have reads : ∃ template, compile {} 2 "sum" "\x7b\x7b 1 + 2 + 3 \x7d\x7d" = .ok template ∧
      BodySpellable template.body ∧ ¬ BodyShallow 2 template.body := by
    refine ⟨_, by cbv, ?_, fun shallow => ?_⟩
    · simp [BodySpellable, Node.Spellable, Expr.Spellable, Value.Spellable]
    · have deep := shallow _ List.mem_cons_self _ List.mem_cons_self
      simp [Expr.nesting] at deep
  obtain ⟨template, compiled, spellable, deep⟩ := reads
  rcases compile_toSource_limit compiled spellable with ⟨shallow, _⟩ | ⟨_, refused⟩
  · exact absurd shallow deep
  · exact ⟨template, compiled, spellable, refused⟩

/-- Whatever the limit, a sum of as many signs compiles, and its canonical source nests too deep. -/
theorem toSource_sum_tooDeep {limit : Int} (some : 0 < limit) {count : Nat}
    (many : limit.toNat ≤ count) (name : String) : ∃ template,
    compile {} limit name (Canonical.output {} (sumText count)) = .ok template ∧
      ∃ fault, compile {} limit name (template.toSource {}) = .error fault ∧
        IsTooDeep limit fault := by
  have accepts : Accepts (fun _ => False) (expression limit)
      ((.number, "1") :: termsLexemes count) EndsExpression (Expr.IsSum count) :=
    sum_accepts some count
  have read := compile_output (fun _ usual => spells_sum usual count) accepts name
  obtain ⟨expr, position, sum, compiled⟩ := read.resolve_right (by simp)
  refine ⟨_, compiled, ?_⟩
  obtain ⟨faithful, distinct, first⟩ := isRead_of_compile compiled
  have known := faithful.wellFormed ⟨sum.spellable, trivial⟩
  have deep : ¬ BodyShallow limit.toNat [.output expr position] := fun shallow => by
    have less := throughout_output_iff.mp (bodyThroughout_cons.mp shallow).1
    rw [sum.nesting] at less
    exact absurd many (Nat.not_le_of_lt less)
  rcases compile_source_limit known distinct first (nestsWithin_of_compile compiled) name with
    ⟨shallow, _⟩ | ⟨_, refused⟩
  · exact absurd shallow deep
  · exact refused

/-- Sixty-five ones need no nesting in the source text, and their canonical source nests too deep for
the limit that holds where none is given. -/
theorem compile_toSource_limit_default : ¬ ∀ (name source : String) (template : Template)
    (fault : Fault), compile {} defaultDepth name source = .ok template →
      compile {} defaultDepth name (template.toSource {}) = .error fault →
        ¬ IsTooDeep defaultDepth fault := by
  intro never
  obtain ⟨template, compiled, fault, refused, deep⟩ :=
    toSource_sum_tooDeep (by decide : 0 < defaultDepth) (Nat.le_refl _) "sum"
  exact never _ _ template fault compiled refused deep

end Template

end Templating
