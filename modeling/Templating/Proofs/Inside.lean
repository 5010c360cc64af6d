import Mathlib.Logic.Basic
import Templating.Template

/-!
What stands inside a template: bodies in the nodes of bodies, expressions in nodes, and expressions
in expressions, each with the number of what encloses it.
-/

namespace Templating

namespace Expr

/-- The expressions right inside an expression. -/
def parts : Expr → List Expr
  | literal _ _ | reference _ _ _ => []
  | list items _ => items
  | binary _ left right _ => [left, right]
  | unary _ operand _ => [operand]
  | filter base _ arguments named _ => base :: (arguments ++ named.map (·.2))

/-- Whether what stands right inside the expression nests one level deeper, as list items and the
operand of a sign do. -/
def nests : Expr → Bool
  | list _ _ | unary _ _ _ => true
  | _ => false

/-- An expression stands somewhere in the whole, with so many signs and lists around it. -/
inductive Within (whole : Expr) : Nat → Expr → Prop where
  | whole : Within whole 0 whole
  | part {level : Nat} {outer inner : Expr} (within : Within whole level outer)
      (part : inner ∈ outer.parts) : Within whole (level + outer.nests.toNat) inner

section

variable {holds : Expr → Prop} {whole inner : Expr}

theorem sizeOf_lt_of_mem_parts (member : inner ∈ whole.parts) : sizeOf inner < sizeOf whole := by
  cases whole with
  | literal | reference => cases member
  | list items =>
      have smaller : sizeOf inner < sizeOf items := List.sizeOf_lt_of_mem member
      rw [list.sizeOf_spec]
      omega
  | binary operator left right =>
      rw [binary.sizeOf_spec]
      simp only [parts, List.mem_cons, List.not_mem_nil, or_false] at member
      obtain rfl | rfl := member <;> omega
  | unary operator operand =>
      cases List.mem_singleton.mp member
      rw [unary.sizeOf_spec]
      omega
  | filter base name arguments named =>
      rw [filter.sizeOf_spec]
      simp only [parts, List.mem_cons, List.mem_append, List.mem_map] at member
      obtain rfl | among | ⟨pair, among, rfl⟩ := member
      · omega
      · have smaller := List.sizeOf_lt_of_mem among
        omega
      · have smaller := List.sizeOf_lt_of_mem among
        rw [Prod.mk.sizeOf_spec] at smaller
        omega

/-- What holds of an expression whenever it holds of what is right inside it holds of all. -/
theorem inductionOnParts {motive : Expr → Prop}
    (step : ∀ expr, (∀ part ∈ expr.parts, motive part) → motive expr) (expr : Expr) : motive expr := by
  refine step expr fun part member => ?_
  have smaller := sizeOf_lt_of_mem_parts member
  exact inductionOnParts step part
termination_by sizeOf expr

/-- What stands in a part stands in the whole. -/
theorem Within.ofPart {part : Expr} {depth : Nat} (member : inner ∈ whole.parts)
    (within : inner.Within depth part) : ∃ deeper, whole.Within deeper part := by
  induction within with
  | whole => exact ⟨_, .part .whole member⟩
  | part _ among ih =>
      obtain ⟨deeper, outer⟩ := ih
      exact ⟨_, outer.part among⟩

/-- Every expression in it, itself included, satisfies the condition. -/
def Throughout (holds : Expr → Prop) (expr : Expr) : Prop :=
  ∀ depth part, expr.Within depth part → holds part

theorem Throughout.here (all : whole.Throughout holds) : holds whole :=
  all 0 whole .whole

theorem Throughout.part (all : whole.Throughout holds) (member : inner ∈ whole.parts) :
    inner.Throughout holds := by
  intro depth part within
  obtain ⟨deeper, outer⟩ := within.ofPart member
  exact all deeper part outer

end

end Expr

namespace Branch

def test : Branch → Expr
  | mk test _ _ => test

def body : Branch → List Node
  | mk _ body _ => body

end Branch

namespace Node

/-- The expressions right inside a node. -/
def exprs : Node → List Expr
  | output expr _ => [expr]
  | condition test _ branches _ _ => test :: branches.map Branch.test
  | loop _ iterable _ _ _ => [iterable]
  | binding _ value _ => [value]
  | inclusion _ bindings _ => (bindings.getD []).map (·.2)
  | text _ _ | block _ _ _ | parent _ _ => []

/-- The bodies right inside a node. -/
def bodies : Node → List (List Node)
  | condition _ body branches otherwise _ => body :: (branches.map Branch.body ++ otherwise.toList)
  | loop _ _ body otherwise _ => body :: otherwise.toList
  | block _ body _ => [body]
  | _ => []

/-- A body is the whole or stands somewhere in it, with so many nodes around it. -/
inductive Inside (whole : List Node) : Nat → List Node → Prop where
  | whole : Inside whole 0 whole
  | part {level : Nat} {outer inner : List Node} {node : Node} (inside : Inside whole level outer)
      (member : node ∈ outer) (part : inner ∈ node.bodies) : Inside whole (level + 1) inner

/-- The bodies of a node are smaller than any body that it stands in. -/
theorem sizeOf_lt_of_mem_bodies {body inner : List Node} {node : Node} (member : node ∈ body)
    (part : inner ∈ node.bodies) : sizeOf inner < sizeOf body := by
  have outer := List.sizeOf_lt_of_mem member
  have within : sizeOf inner < sizeOf node := by
    cases node with
    | condition test content branches otherwise position =>
        simp only [bodies, List.mem_cons, List.mem_append, List.mem_map] at part
        obtain rfl | ⟨branch, among, rfl⟩ | among := part
        · simp
          omega
        · have branchSize := List.sizeOf_lt_of_mem among
          obtain ⟨test', content', position'⟩ := branch
          simp [Branch.body] at branchSize ⊢
          omega
        · cases otherwise with
          | none => cases among
          | some other =>
              cases List.mem_singleton.mp among
              simp
              omega
    | loop targets iterable content otherwise position =>
        simp only [bodies, List.mem_cons] at part
        obtain rfl | among := part
        · simp
          omega
        · cases otherwise with
          | none => cases among
          | some other =>
              cases List.mem_singleton.mp among
              simp
              omega
    | block name content position =>
        cases List.mem_singleton.mp part
        simp
        omega
    | text | output | binding | parent | inclusion => cases part
  omega

end Node

end Templating
