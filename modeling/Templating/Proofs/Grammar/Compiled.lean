import Mathlib
import Templating.Proofs.Grammar.ParsedTemplate

/-!
Compiled templates are well-formed: what rendering and inheritance rely on holds in every body of a
template and in every part of its expressions, and both nest no deeper than the limit.
-/

namespace Templating

namespace Expr

/-- What a variable and a filter read from sound tokens are, apart from the expressions in them. -/
def Sound : Expr → Prop
  | reference name path _ => IsIdentifier name ∧ ∀ position, .index position ∈ path → 0 ≤ position
  | filter _ name _ named _ => IsIdentifier name ∧ (named.map (·.1)).Nodup
  | _ => True

theorem Parsed.sound {level : Nat} {expr : Expr} (parsed : expr.Parsed level) : expr.Sound := by
  cases parsed with
  | reference identifier segments =>
      exact ⟨identifier, fun position member => (segments _ member trivial).1⟩
  | filter _ identifier _ _ distinct => exact ⟨identifier, distinct⟩
  | literal | list | binary | unary => exact trivial

theorem Parsed.part {level : Nat} {outer inner : Expr} (parsed : outer.Parsed level)
    (part : inner ∈ outer.parts) :
    outer.nests.toNat ≤ level ∧ inner.Parsed (level - outer.nests.toNat) := by
  cases parsed with
  | literal | reference => cases part
  | list room parts => exact ⟨room inner part, parts inner part⟩
  | binary _ first second =>
      refine ⟨Nat.zero_le _, ?_⟩
      obtain rfl | other := List.mem_cons.mp part
      · exact first
      · cases List.mem_singleton.mp other
        exact second
  | unary _ room inside =>
      cases List.mem_singleton.mp part
      exact ⟨room, inside⟩
  | filter value _ positional values =>
      refine ⟨Nat.zero_le _, ?_⟩
      simp only [parts, List.mem_cons, List.mem_append, List.mem_map] at part
      obtain rfl | argument | ⟨pair, among, rfl⟩ := part
      · exact value
      · exact positional inner argument
      · exact values pair among

/-- What the grammar makes of tokens has parts of the same kind, with less room the deeper they
stand. -/
theorem Parsed.within {level depth : Nat} {whole part : Expr} (parsed : whole.Parsed level)
    (within : whole.Within depth part) : depth ≤ level ∧ part.Parsed (level - depth) := by
  induction within with
  | whole => exact ⟨Nat.zero_le _, parsed⟩
  | part _ member ih =>
      obtain ⟨atMost, outer⟩ := ih
      obtain ⟨room, inner⟩ := outer.part member
      refine ⟨by omega, ?_⟩
      rwa [← Nat.sub_sub]

end Expr

namespace Node

theorem BodyParsed.part {limit depth : Nat} {deep : Bool} {outer inner : List Node} {node : Node}
    (parsed : BodyParsed limit depth deep outer) (member : node ∈ outer)
    (part : inner ∈ node.bodies) : 0 < depth ∧ BodyParsed limit (depth - 1) true inner :=
  ((bodyParsed_iff.mp parsed).nodes node member).bodies inner part

theorem BodyParsed.inside {limit depth level : Nat} {whole body : List Node}
    (parsed : BodyParsed limit depth false whole) (inside : Inside whole level body) :
    level ≤ depth ∧ BodyParsed limit (depth - level) (decide (0 < level)) body := by
  induction inside with
  | whole => exact ⟨Nat.zero_le _, parsed⟩
  | part _ member part ih =>
      obtain ⟨atMost, outer⟩ := ih
      obtain ⟨room, inner⟩ := outer.part member part
      refine ⟨by omega, ?_⟩
      rw [← Nat.sub_sub, decide_eq_true (Nat.succ_pos _)]
      exact inner

end Node

namespace Template

open Node

/-- A template as other parts of the program rely on it, with so much nesting at most. -/
structure WellFormed (limit : Nat) (template : Template) : Prop where
  /-- Texts are not empty, loops have one target or two that differ, bindings of an inclusion are
  not empty, and names are identifiers. -/
  sound : ∀ {level : Nat} {body : List Node} {node : Node}, Inside template.body level body →
    node ∈ body → node.Sound
  apart : ∀ {level : Nat} {body : List Node}, Inside template.body level body →
    body.IsChain fun left right => ¬ Joins left right
  blocks : (bodyBlockNames template.body).Nodup
  parentFirst : ParentFirst template.body
  noParent : ∀ {level : Nat} {body : List Node} {node : Node},
    Inside template.body (level + 1) body → node ∈ body → node.isParent = false
  nesting : ∀ {level : Nat} {body : List Node}, Inside template.body level body → level ≤ limit
  /-- Variables start with an identifier and have no negative index, and no argument of a filter is
  named twice. -/
  exprs : ∀ {level : Nat} {body : List Node} {node : Node} {expr : Expr} {depth : Nat} {part : Expr},
    Inside template.body level body → node ∈ body → expr ∈ node.exprs → expr.Within depth part →
    part.Sound ∧ depth < limit

theorem IsParsed.wellFormed {limit : Nat} {template : Template} (parsed : template.IsParsed limit) :
    template.WellFormed limit where
  sound inside member := ((bodyParsed_iff.mp (parsed.body.inside inside).2).nodes _ member).sound
  apart inside := (bodyParsed_iff.mp (parsed.body.inside inside).2).apart
  blocks := parsed.distinct
  parentFirst := parsed.parentFirst
  noParent inside member := by
    have all := bodyParsed_iff.mp (parsed.body.inside inside).2
    exact all.noParent (decide_eq_true (Nat.succ_pos _)) _ member
  nesting inside := (parsed.body.inside inside).1
  exprs inside member among within := by
    have all := bodyParsed_iff.mp (parsed.body.inside inside).2
    obtain ⟨room, below⟩ := (all.nodes _ member).exprs _ among
    obtain ⟨atMost, part⟩ := below.within within
    exact ⟨part.sound, by omega⟩

/-- Whatever the delimiters, every template that is compiled from a source text is well-formed. -/
theorem wellFormed_of_compile {delimiters : Delimiters} {limit : Int} {name source : String}
    {template : Template} (compiled : compile delimiters limit name source = .ok template) :
    template.WellFormed limit.toNat :=
  (isParsed_of_compile compiled).wellFormed

/-- Two signs in a list need a limit of four. -/
theorem wellFormed_of_compile_total : ∃ template, compile {} 4 "total"
      ("\x7b% for row, rest in rows %\x7dSum:\x7b# joined #\x7d \x7b% if row.cost[0] %\x7d" ++
        "\x7b% include \"cell\" with cost = [- -row.cost] | join(by: \"+\") %\x7d" ++
        "\x7b% endif %\x7d\x7b% endfor %\x7d") = .ok template ∧ template.WellFormed 4 := by
  refine Exists.imp (fun _ compiled => ⟨compiled, wellFormed_of_compile compiled⟩) ?_
  exact ⟨_, by cbv⟩

end Template

end Templating
