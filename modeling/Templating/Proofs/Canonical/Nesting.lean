import Templating.Proofs.Shells

/-!
How deep canonical source nests: the levels inside the source of an expression, and how many nodes
stand around a body. A limit allows for so many of each.
-/

namespace Templating

namespace Expr

mutual

/-- The levels of nesting that stand inside the canonical source of an expression: groups, items of
lists, arguments and operands of signs. -/
def nesting : Expr → Nat
  | literal _ _ | reference _ _ _ => 0
  | list items _ => nestingAll items
  | binary _ left right _ => max left.nesting right.nesting + 1
  | unary _ operand _ => operand.nesting + 2
  | filter base _ arguments named _ =>
    max base.nesting (max (nestingAll arguments) (nestingNamed named)) + 1

/-- The levels of several expressions, those of the expressions included. -/
def nestingAll : List Expr → Nat
  | [] => 0
  | item :: items => max (item.nesting + 1) (nestingAll items)

def nestingNamed : List (String × Expr) → Nat
  | [] => 0
  | (_, value) :: rest => max (value.nesting + 1) (nestingNamed rest)

end

theorem nestingAll_le_iff {items : List Expr} {depth : Nat} :
    nestingAll items ≤ depth ↔ ∀ item ∈ items, item.nesting < depth := by
  induction items with
  | nil => simp [nestingAll]
  | cons item items ih => rw [nestingAll, Nat.max_le, List.forall_mem_cons, ih, Nat.succ_le_iff]

theorem nestingNamed_le_iff {named : List (String × Expr)} {depth : Nat} :
    nestingNamed named ≤ depth ↔ ∀ entry ∈ named, entry.2.nesting < depth := by
  induction named with
  | nil => simp [nestingNamed]
  | cons entry named ih =>
      rw [nestingNamed, Nat.max_le, List.forall_mem_cons, ih, Nat.succ_le_iff]

end Expr

namespace Node

/-- The canonical source of every expression right inside the node can be read under this limit. -/
def Shallow (limit : Nat) (node : Node) : Prop :=
  ∀ expr ∈ node.exprs, expr.nesting < limit

/-- The canonical source of every expression in the body can be read under this limit. -/
def BodyShallow (limit : Nat) (body : List Node) : Prop :=
  BodyThroughout (Shallow limit) body

theorem throughout_shallow_iff {limit : Nat} {node : Node} : node.Throughout (Shallow limit) ↔
    node.Shallow limit ∧ ∀ body ∈ node.bodies, BodyShallow limit body := by
  rw [throughout_iff, Shallow, exprs_shell]
  exact Iff.rfl

theorem throughout_condition_iff {limit : Nat} {test : Expr} {body : List Node}
    {branches : List Branch} {otherwise : Option (List Node)} {position : Option Position} :
    (condition test body branches otherwise position).Throughout (Shallow limit) ↔
      (test.nesting < limit ∧ BodyShallow limit body) ∧
        (∀ branch ∈ branches, branch.test.nesting < limit ∧ BodyShallow limit branch.body) ∧
          ∀ body ∈ otherwise, BodyShallow limit body := by
  simp only [throughout_shallow_iff, Shallow, exprs, bodies, List.forall_mem_cons,
    List.forall_mem_append, List.forall_mem_map, Option.mem_toList, forall_and]
  constructor
  · rintro ⟨⟨first, tests⟩, here, inner, rest⟩
    exact ⟨⟨first, here⟩, ⟨tests, inner⟩, rest⟩
  · rintro ⟨⟨first, here⟩, ⟨tests, inner⟩, rest⟩
    exact ⟨⟨first, tests⟩, here, inner, rest⟩

theorem throughout_loop_iff {limit : Nat} {targets : List String} {iterable : Expr}
    {body : List Node} {otherwise : Option (List Node)} {position : Option Position} :
    (loop targets iterable body otherwise position).Throughout (Shallow limit) ↔
      iterable.nesting < limit ∧ BodyShallow limit body ∧
        ∀ body ∈ otherwise, BodyShallow limit body := by
  simp only [throughout_shallow_iff, Shallow, exprs, bodies, List.forall_mem_cons,
    Option.mem_toList]
  simp

theorem throughout_block_iff {limit : Nat} {name : String} {body : List Node}
    {position : Option Position} :
    (block name body position).Throughout (Shallow limit) ↔ BodyShallow limit body := by
  simp [throughout_shallow_iff, Shallow, exprs, bodies]

theorem throughout_bare_iff {limit : Nat} {node : Node} (bare : node.bodies = []) :
    node.Throughout (Shallow limit) ↔ node.Shallow limit := by
  simp [throughout_shallow_iff, bare]

theorem throughout_output_iff {limit : Nat} {expr : Expr} {position : Option Position} :
    (output expr position).Throughout (Shallow limit) ↔ expr.nesting < limit :=
  (throughout_bare_iff rfl).trans List.forall_mem_singleton

theorem throughout_binding_iff {limit : Nat} {name : String} {value : Expr}
    {position : Option Position} :
    (binding name value position).Throughout (Shallow limit) ↔ value.nesting < limit :=
  (throughout_bare_iff rfl).trans List.forall_mem_singleton

theorem throughout_inclusion_iff {limit : Nat} {name : String}
    {bindings : Option (List (String × Expr))} {position : Option Position} :
    (inclusion name bindings position).Throughout (Shallow limit) ↔
      ∀ pair ∈ bindings.getD [], pair.2.nesting < limit :=
  (throughout_bare_iff rfl).trans List.forall_mem_map

/-- No more than so many nodes stand around any body in this one. -/
def NestsWithin (depth : Nat) (content : List Node) : Prop :=
  ∀ level inner, Inside content level inner → level ≤ depth

/-- There is a level left for this body, and enough for the bodies in it. -/
def HasRoom (depth : Nat) (content : List Node) : Prop :=
  ∃ less, depth = less + 1 ∧ NestsWithin less content

theorem NestsWithin.part {depth : Nat} {content inner : List Node} {node : Node}
    (within : NestsWithin depth content) (member : node ∈ content) (part : inner ∈ node.bodies) :
    HasRoom depth inner := by
  obtain ⟨less, rfl⟩ := Nat.exists_eq_add_of_le' (within 1 inner (.part .whole member part))
  exact ⟨less, rfl, fun level deeper inside =>
    Nat.le_of_succ_le_succ (within (level + 1) deeper (.within member part inside))⟩

end Node

end Templating
