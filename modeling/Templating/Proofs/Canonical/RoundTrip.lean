import Mathlib
import Templating.Proofs.Grammar.ParsedTemplate
import Templating.Proofs.Limits.Parsing

/-!
Canonical source keeps a template: what was read from a source text is read again, places aside, from
the canonical source that spells it.
-/

namespace Templating

namespace Template

open Node Grammar Lexer

/-- A text whose lexemes are read as a body compiles to the body, unless reading is refused. -/
theorem compile_emitted {limit : Int} {text : String} {lexemes : List Lexeme}
    {refusals : Refusal → Prop} {result : List Node × Token → Prop} {names : List String}
    (emits : Emits {} text.toList [] lexemes)
    (accepts : Accepts refusals (bodyAt limit limit.toNat [] []) lexemes
      (fun lexeme => lexeme.1 = .endOfInput) result names) (distinct : names.Nodup)
    (first : ∀ read, result read → ParentFirst read.1) (name : String) :
    (∃ read, result read ∧ compile {} limit name text = .ok ⟨name, read.1, text⟩) ∨
      ∃ refusal, refusals refusal ∧
        compile {} limit name text = .error (refusalFault name text refusal) := by
  obtain ⟨tokens, mark, same, lexed⟩ := Canonical.tokens_emitted emits
  have tokenized : tokenize {} name text = .ok (tokens ++ [⟨.endOfInput, "", mark⟩]) := by
    rw [tokenize, lexed]
  have parsed := accepts (Cursor.ofTokens name (tokens ++ [⟨.endOfInput, "", mark⟩])) tokens
    ⟨.endOfInput, "", mark⟩ [] same rfl (by simp [Cursor.ofTokens])
    (by simpa [Cursor.opened, Cursor.ofTokens] using distinct)
  have whole : (Cursor.ofTokens name (tokens ++ [⟨.endOfInput, "", mark⟩])).before
      (tokens ++ [⟨.endOfInput, "", mark⟩]) =
        Cursor.ofTokens name (tokens ++ [⟨.endOfInput, "", mark⟩]) := rfl
  rw [whole] at parsed
  simp only [compile, tokenized, Outcome.ok_bind, ofTokens]
  rcases parsed with ⟨read, blocks, good, _, run⟩ | ⟨refusal, run, allowed⟩
  · have settled := settleParent_eq (first read good)
    exact .inl ⟨read, good, by rw [run]; simp [settled]⟩
  · exact .inr ⟨refusal, allowed, by rw [run]⟩

/-- A template that is one output, whose text spells lexemes that are read as an expression. -/
theorem compile_output {limit : Int} {text : String} {inside : List Lexeme}
    {refusals : Refusal → Prop} {holds : Expr → Prop}
    (spells : ∀ tag : TagEnd, tag.IsUsual → Canonical.Spells tag text inside)
    (accepts : Accepts refusals (expression limit) inside EndsExpression holds) (name : String) :
    (∃ expr position, holds expr ∧ compile {} limit name (Canonical.output {} text) =
        .ok ⟨name, [.output expr position], Canonical.output {} text⟩) ∨
      ∃ refusal, refusals refusal ∧ compile {} limit name (Canonical.output {} text) =
        .error (refusalFault name (Canonical.output {} text) refusal) := by
  rcases compile_emitted (Canonical.emits_output spells []) (bodyAt_output accepts) List.nodup_nil
      (by rintro read ⟨expr, position, same, _⟩; simp [ParentFirst, same]) name with
    ⟨⟨body, last⟩, ⟨expr, position, same, good⟩, compiled⟩ | refused
  · obtain rfl : body = [.output expr position] := same
    exact .inl ⟨expr, position, good, compiled⟩
  · exact .inr refused

/-- Where the limit leaves room for the bodies, canonical source is read as the body that it spells
if no expression in it nests as deep as the limit; if one does, the limit is exceeded. -/
theorem compile_source_limit {limit : Int} {body : List Node} (known : BodyWellFormed false body)
    (distinct : (bodyBlockNames body).Nodup) (first : ParentFirst body)
    (within : NestsWithin limit.toNat body) (name : String) :
    (BodyShallow limit.toNat body ∧
      ∃ again, compile {} limit name (Canonical.source {} body) = .ok again ∧
        unplacedBody again.body = unplacedBody body) ∨
    (¬ BodyShallow limit.toNat body ∧
      ∃ fault, compile {} limit name (Canonical.source {} body) = .error fault ∧
        IsTooDeep limit fault) := by
  have cut : CutUnless limit
      (fun refusal => refusal.1 = .tooDeep limit ∧ ¬ BodyShallow limit.toNat body)
      (BodyShallow limit.toNat body) := fun deep _ => ⟨rfl, deep⟩
  rcases compile_emitted (Canonical.emits_body false body known false [] rfl)
      (bodyAt_accepts known within cut) distinct (fun _ read => first.of_unplaced read.1) name with
    ⟨read, ⟨same, shallow⟩, compiled⟩ | ⟨refusal, ⟨deep, absent⟩, refused⟩
  · exact .inl ⟨shallow, _, compiled, same⟩
  · exact .inr ⟨absent, _, refused, congrArg Cause.grammar deep⟩

theorem inside_sizeOf {whole body : List Node} {level : Nat} (inside : Inside whole level body) :
    level + sizeOf body ≤ sizeOf whole := by
  induction inside with
  | whole => omega
  | part _ member part ih =>
      have smaller := sizeOf_lt_of_mem_bodies member part
      omega

/-- Levels of nesting that are enough for canonical source, though fewer may do. -/
noncomputable def bodyNesting (body : List Node) : Nat :=
  sizeOf body + (((bodyShells body).flatMap Node.exprs).map Expr.nesting).sum

/-- With enough levels of nesting, canonical source is read as the body that it spells. -/
theorem compile_source {limit : Int} {body : List Node} (known : BodyWellFormed false body)
    (distinct : (bodyBlockNames body).Nodup) (first : ParentFirst body)
    (enough : bodyNesting body ≤ limit.toNat) (name : String) :
    ∃ again, compile {} limit name (Canonical.source {} body) = .ok again ∧
      unplacedBody again.body = unplacedBody body := by
  rw [bodyNesting] at enough
  have within : NestsWithin limit.toNat body := fun level inner inside => by
    have most := inside_sizeOf inside
    omega
  have shallow : BodyShallow limit.toNat body := fun shell member expr part => by
    have most := List.le_sum_of_mem (List.mem_map_of_mem (List.mem_flatMap.mpr
      ⟨shell, member, part⟩) : expr.nesting ∈ ((bodyShells body).flatMap Node.exprs).map Expr.nesting)
    have positive : 0 < sizeOf body := by cases body <;> simp
    omega
  rcases compile_source_limit known distinct first within name with ⟨_, read⟩ | ⟨deep, _⟩
  · exact read
  · exact absurd shallow deep

/-- Canonical source keeps every template that is compiled from a source text, if its floating
values are finite and no line feed stands in a name that needs no quotes. -/
theorem compile_toSource {limit : Int} {name source : String} {template : Template}
    (compiled : compile {} limit name source = .ok template)
    (spellable : BodySpellable template.body) :
    ∃ depth : Nat, ∀ deeper : Int, depth ≤ deeper →
      ∃ again, compile {} deeper name (template.toSource {}) = .ok again ∧
        unplacedBody again.body = unplacedBody template.body := by
  obtain ⟨faithful, distinct, first⟩ := isRead_of_compile compiled
  refine ⟨bodyNesting template.body, fun deeper enough => ?_⟩
  exact compile_source (faithful.wellFormed spellable) distinct first (by omega) name

theorem compile_toSource_price : ∃ template,
    compile {} 64 "price" "Price: \x7b\x7b 1.5 * item.cost | round(digits: 2) \x7d\x7d" =
      .ok template ∧ BodySpellable template.body ∧
    ∃ depth : Nat, ∀ deeper : Int, depth ≤ deeper →
      ∃ again, compile {} deeper "price" (template.toSource {}) = .ok again ∧
        unplacedBody again.body = unplacedBody template.body := by
  have reads : ∃ template,
      compile {} 64 "price" "Price: \x7b\x7b 1.5 * item.cost | round(digits: 2) \x7d\x7d" =
        .ok template ∧ BodySpellable template.body := by
    refine ⟨_, by cbv, ?_⟩
    have names : IsKeyName "cost" ∧ IsKeyName "digits" := by decide +kernel
    simp [BodySpellable, Node.Spellable, Expr.Spellable, Value.Spellable, Expr.AllSpellable,
      Expr.NamedSpellable, Segment.Spellable, Binary64.isFinite, names]
  obtain ⟨template, compiled, spellable⟩ := reads
  exact ⟨template, compiled, spellable, compile_toSource compiled spellable⟩

end Template

end Templating
