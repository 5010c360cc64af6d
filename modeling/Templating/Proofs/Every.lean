import Templating.Inheritance
import Templating.Proofs.Value.Strings

/-!
Conditions on all parts of a template: on the literals and the filters of an expression, and on the
texts and the expressions of a node, at any depth.
-/

namespace Templating

namespace Expr

mutual

/-- The values of all literals and the names of all filters satisfy a condition each. -/
def Every (literals : Value → Prop) (filters : String → Prop) : Expr → Prop
  | literal value _ => literals value
  | reference _ _ _ => True
  | list items _ => AllEvery literals filters items
  | binary _ left right _ => left.Every literals filters ∧ right.Every literals filters
  | unary _ operand _ => operand.Every literals filters
  | filter base name arguments named _ =>
    filters name ∧ base.Every literals filters ∧ AllEvery literals filters arguments ∧
      NamedEvery literals filters named

def AllEvery (literals : Value → Prop) (filters : String → Prop) : List Expr → Prop
  | [] => True
  | item :: items => item.Every literals filters ∧ AllEvery literals filters items

def NamedEvery (literals : Value → Prop) (filters : String → Prop) :
    List (String × Expr) → Prop
  | [] => True
  | (_, value) :: rest => value.Every literals filters ∧ NamedEvery literals filters rest

end

/-- No literal holds a safe string. -/
def PlainLiterals : Expr → Prop :=
  Every Value.Plain fun _ => True

variable {literals others values : Value → Prop} {filters further names : String → Prop}

theorem allEvery_iff {items : List Expr} :
    AllEvery literals filters items ↔ ∀ item ∈ items, item.Every literals filters := by
  induction items with
  | nil => simp [AllEvery]
  | cons item items ih => rw [AllEvery, ih, List.forall_mem_cons]

theorem namedEvery_iff {named : List (String × Expr)} :
    NamedEvery literals filters named ↔ ∀ pair ∈ named, pair.2.Every literals filters := by
  induction named with
  | nil => simp [NamedEvery]
  | cons pair named ih => rw [NamedEvery, ih, List.forall_mem_cons]

section

set_option linter.unusedSectionVars false

variable (atLiteral : ∀ value, literals value → others value → values value)
  (atFilter : ∀ name, filters name → further name → names name)

include atLiteral atFilter

mutual

/-- What follows from two conditions at each part follows from them everywhere. -/
theorem Every.combine : ∀ expr : Expr, expr.Every literals filters → expr.Every others further →
    expr.Every values names
  | .literal value _, left, right => atLiteral value left right
  | .reference _ _ _, _, _ => trivial
  | .list items _, left, right => AllEvery.combine items left right
  | .binary _ first second _, left, right =>
    ⟨Every.combine first left.1 right.1, Every.combine second left.2 right.2⟩
  | .unary _ operand _, left, right => Every.combine operand left right
  | .filter base name arguments named _, left, right =>
    ⟨atFilter name left.1 right.1, Every.combine base left.2.1 right.2.1,
      AllEvery.combine arguments left.2.2.1 right.2.2.1,
      NamedEvery.combine named left.2.2.2 right.2.2.2⟩

theorem AllEvery.combine : ∀ items : List Expr, AllEvery literals filters items →
    AllEvery others further items → AllEvery values names items
  | [], _, _ => trivial
  | item :: items, left, right =>
    ⟨Every.combine item left.1 right.1, AllEvery.combine items left.2 right.2⟩

theorem NamedEvery.combine : ∀ named : List (String × Expr), NamedEvery literals filters named →
    NamedEvery others further named → NamedEvery values names named
  | [], _, _ => trivial
  | (_, value) :: named, left, right =>
    ⟨Every.combine value left.1 right.1, NamedEvery.combine named left.2 right.2⟩

end

end

end Expr

namespace Node

mutual

/-- All texts and all expressions of the node satisfy a condition each. -/
def Every (texts : String → Prop) (exprs : Expr → Prop) : Node → Prop
  | text content _ => texts content
  | output expr _ => exprs expr
  | condition test body branches otherwise _ =>
    exprs test ∧ BodyEvery texts exprs body ∧ BranchesEvery texts exprs branches ∧
      OptionEvery texts exprs otherwise
  | loop _ iterable body otherwise _ =>
    exprs iterable ∧ BodyEvery texts exprs body ∧ OptionEvery texts exprs otherwise
  | binding _ value _ => exprs value
  | block _ body _ => BodyEvery texts exprs body
  | parent _ _ => True
  | inclusion _ bindings _ => ∀ pairs ∈ bindings, ∀ pair ∈ pairs, exprs pair.2

def BodyEvery (texts : String → Prop) (exprs : Expr → Prop) : List Node → Prop
  | [] => True
  | node :: rest => node.Every texts exprs ∧ BodyEvery texts exprs rest

def BranchEvery (texts : String → Prop) (exprs : Expr → Prop) : Branch → Prop
  | .mk test body _ => exprs test ∧ BodyEvery texts exprs body

def BranchesEvery (texts : String → Prop) (exprs : Expr → Prop) : List Branch → Prop
  | [] => True
  | branch :: rest => BranchEvery texts exprs branch ∧ BranchesEvery texts exprs rest

def OptionEvery (texts : String → Prop) (exprs : Expr → Prop) : Option (List Node) → Prop
  | none => True
  | some body => BodyEvery texts exprs body

end

/-- No literal in the node holds a safe string. -/
def PlainLiterals : Node → Prop :=
  Every (fun _ => True) Expr.PlainLiterals

variable {texts others contents : String → Prop} {exprs further both : Expr → Prop}

theorem bodyEvery_iff {body : List Node} :
    BodyEvery texts exprs body ↔ ∀ node ∈ body, node.Every texts exprs := by
  induction body with
  | nil => simp [BodyEvery]
  | cons node body ih => rw [BodyEvery, ih, List.forall_mem_cons]

theorem branchesEvery_iff {branches : List Branch} :
    BranchesEvery texts exprs branches ↔ ∀ branch ∈ branches, BranchEvery texts exprs branch := by
  induction branches with
  | nil => simp [BranchesEvery]
  | cons branch branches ih => rw [BranchesEvery, ih, List.forall_mem_cons]

section

set_option linter.unusedSectionVars false

variable (atText : ∀ content, texts content → others content → contents content)
  (atExpr : ∀ expr, exprs expr → further expr → both expr)

include atText atExpr

mutual

/-- What follows from two conditions at each part follows from them everywhere. -/
theorem Every.combine : ∀ node : Node, node.Every texts exprs → node.Every others further →
    node.Every contents both
  | .text content _, left, right => atText content left right
  | .output expr _, left, right | .binding _ expr _, left, right => atExpr expr left right
  | .condition test body branches otherwise _, left, right =>
    ⟨atExpr test left.1 right.1, BodyEvery.combine body left.2.1 right.2.1,
      BranchesEvery.combine branches left.2.2.1 right.2.2.1,
      OptionEvery.combine otherwise left.2.2.2 right.2.2.2⟩
  | .loop _ iterable body otherwise _, left, right =>
    ⟨atExpr iterable left.1 right.1, BodyEvery.combine body left.2.1 right.2.1,
      OptionEvery.combine otherwise left.2.2 right.2.2⟩
  | .block _ body _, left, right => BodyEvery.combine body left right
  | .parent _ _, _, _ => trivial
  | .inclusion _ _ _, left, right => fun pairs given pair member =>
    atExpr pair.2 (left pairs given pair member) (right pairs given pair member)

theorem BodyEvery.combine : ∀ body : List Node, BodyEvery texts exprs body →
    BodyEvery others further body → BodyEvery contents both body
  | [], _, _ => trivial
  | node :: rest, left, right =>
    ⟨Every.combine node left.1 right.1, BodyEvery.combine rest left.2 right.2⟩

theorem BranchEvery.combine : ∀ branch : Branch, BranchEvery texts exprs branch →
    BranchEvery others further branch → BranchEvery contents both branch
  | .mk test body _, left, right =>
    ⟨atExpr test left.1 right.1, BodyEvery.combine body left.2 right.2⟩

theorem BranchesEvery.combine : ∀ branches : List Branch, BranchesEvery texts exprs branches →
    BranchesEvery others further branches → BranchesEvery contents both branches
  | [], _, _ => trivial
  | branch :: rest, left, right =>
    ⟨BranchEvery.combine branch left.1 right.1, BranchesEvery.combine rest left.2 right.2⟩

theorem OptionEvery.combine : ∀ body : Option (List Node), OptionEvery texts exprs body →
    OptionEvery others further body → OptionEvery contents both body
  | none, _, _ => trivial
  | some body, left, right => BodyEvery.combine body left right

end

end

end Node

end Templating
