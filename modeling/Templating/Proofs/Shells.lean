import Templating.Proofs.Inside

/-!
Nodes apart from the bodies in them. Bodies are put together from the nodes of several templates;
what becomes of a node on the way are only the bodies in it, its shell stays what it was.
-/

namespace Templating

namespace Branch

def shell : Branch → Branch
  | mk test _ position => mk test [] position

@[simp] theorem test_shell (branch : Branch) : branch.shell.test = branch.test := by
  cases branch
  rfl

end Branch

namespace Node

/-- The node with nothing in its bodies. -/
def shell : Node → Node
  | condition test _ branches otherwise position =>
    condition test [] (branches.map Branch.shell) (otherwise.map fun _ => []) position
  | loop targets iterable _ otherwise position =>
    loop targets iterable [] (otherwise.map fun _ => []) position
  | block name _ position => block name [] position
  | node => node

mutual

/-- The shells of the node and of all nodes inside it. -/
def shells : Node → List Node
  | condition test body branches otherwise position =>
    (condition test body branches otherwise position).shell ::
      (bodyShells body ++ branchesShells branches ++ optionShells otherwise)
  | loop targets iterable body otherwise position =>
    (loop targets iterable body otherwise position).shell ::
      (bodyShells body ++ optionShells otherwise)
  | block name body position => (block name body position).shell :: bodyShells body
  | node => [node]

def bodyShells : List Node → List Node
  | [] => []
  | node :: rest => node.shells ++ bodyShells rest

def branchShells : Branch → List Node
  | .mk _ body _ => bodyShells body

def branchesShells : List Branch → List Node
  | [] => []
  | branch :: rest => branchShells branch ++ branchesShells rest

def optionShells : Option (List Node) → List Node
  | none => []
  | some body => bodyShells body

end

@[simp] theorem position_shell (node : Node) : node.shell.position = node.position := by
  cases node <;> rfl

@[simp] theorem exprs_shell (node : Node) : node.shell.exprs = node.exprs := by
  cases node with
  | condition test body branches otherwise position =>
      simp [shell, exprs, Function.comp_def]
  | _ => rfl

theorem mem_bodyShells {body : List Node} {found : Node} :
    found ∈ bodyShells body ↔ ∃ node ∈ body, found ∈ node.shells := by
  induction body with
  | nil => simp [bodyShells]
  | cons node rest ih => simp [bodyShells, ih]

theorem mem_branchesShells {branches : List Branch} {found : Node} :
    found ∈ branchesShells branches ↔ ∃ branch ∈ branches, found ∈ bodyShells branch.body := by
  induction branches with
  | nil => simp [branchesShells]
  | cons branch rest ih =>
      obtain ⟨test, body, position⟩ := branch
      simp [branchesShells, branchShells, Branch.body, ih]

theorem mem_optionShells {otherwise : Option (List Node)} {found : Node} :
    found ∈ optionShells otherwise ↔ ∃ body ∈ otherwise.toList, found ∈ bodyShells body := by
  cases otherwise <;> simp [optionShells]

theorem mem_shells {node found : Node} :
    found ∈ node.shells ↔ found = node.shell ∨ ∃ body ∈ node.bodies, found ∈ bodyShells body := by
  cases node with
  | condition test body branches otherwise position =>
      simp [shells, bodies, mem_branchesShells, mem_optionShells, or_and_right, exists_or]
  | loop targets iterable body otherwise position =>
      simp [shells, bodies, mem_optionShells]
  | block name body position => simp [shells, bodies]
  | text | output | binding | parent | inclusion => simp [shells, shell, bodies]

theorem mem_bodyShells_of_inside {whole body : List Node} {level : Nat} {found : Node}
    (inside : Inside whole level body) (member : found ∈ bodyShells body) :
    found ∈ bodyShells whole := by
  induction inside with
  | whole => exact member
  | part _ among part ih =>
      exact ih (mem_bodyShells.mpr ⟨_, among, mem_shells.mpr (.inr ⟨_, part, member⟩)⟩)

theorem Inside.within {whole outer inner : List Node} {node : Node} {level : Nat}
    (member : node ∈ whole) (part : outer ∈ node.bodies) (inside : Inside outer level inner) :
    Inside whole (level + 1) inner := by
  induction inside with
  | whole => exact .part .whole member part
  | part _ among deeper ih => exact .part ih among deeper

theorem exists_inside_of_mem {whole : List Node} {found : Node} (member : found ∈ bodyShells whole) :
    ∃ level body node, Inside whole level body ∧ node ∈ body ∧ node.shell = found := by
  obtain ⟨node, among, inner⟩ := mem_bodyShells.mp member
  obtain rfl | ⟨content, part, deeper⟩ := mem_shells.mp inner
  · exact ⟨0, whole, node, .whole, among, rfl⟩
  · have smaller := sizeOf_lt_of_mem_bodies among part
    obtain ⟨level, body, other, inside, stands, same⟩ := exists_inside_of_mem deeper
    exact ⟨level + 1, body, other, .within among part inside, stands, same⟩
termination_by sizeOf whole

/-- The shells are those of the nodes that stand somewhere in the body, and no others. -/
theorem mem_bodyShells_iff {whole : List Node} {found : Node} :
    found ∈ bodyShells whole ↔
      ∃ level body node, Inside whole level body ∧ node ∈ body ∧ node.shell = found := by
  constructor
  · exact exists_inside_of_mem
  · rintro ⟨level, body, node, inside, member, rfl⟩
    exact mem_bodyShells_of_inside inside
      (mem_bodyShells.mpr ⟨node, member, mem_shells.mpr (.inl rfl)⟩)

/-- Every shell in the node satisfies the condition. -/
def Throughout (holds : Node → Prop) (node : Node) : Prop :=
  ∀ shell ∈ node.shells, holds shell

def BodyThroughout (holds : Node → Prop) (body : List Node) : Prop :=
  ∀ shell ∈ bodyShells body, holds shell

section

variable {holds : Node → Prop}

theorem bodyThroughout_nil : BodyThroughout holds [] :=
  List.forall_mem_nil _

theorem bodyThroughout_cons {node : Node} {rest : List Node} :
    BodyThroughout holds (node :: rest) ↔ node.Throughout holds ∧ BodyThroughout holds rest :=
  List.forall_mem_append

theorem bodyThroughout_iff {body : List Node} :
    BodyThroughout holds body ↔ ∀ node ∈ body, node.Throughout holds := by
  induction body with
  | nil => simp [bodyThroughout_nil]
  | cons node rest ih => rw [bodyThroughout_cons, ih, List.forall_mem_cons]

theorem bodyThroughout_append {left right : List Node} :
    BodyThroughout holds (left ++ right) ↔
      BodyThroughout holds left ∧ BodyThroughout holds right := by
  rw [bodyThroughout_iff, bodyThroughout_iff, bodyThroughout_iff, List.forall_mem_append]

theorem throughout_iff {node : Node} :
    node.Throughout holds ↔
      holds node.shell ∧ ∀ body ∈ node.bodies, BodyThroughout holds body := by
  constructor
  · intro all
    exact ⟨all _ (mem_shells.mpr (.inl rfl)), fun body part found member =>
      all found (mem_shells.mpr (.inr ⟨body, part, member⟩))⟩
  · rintro ⟨here, inner⟩ found member
    obtain rfl | ⟨body, part, inside⟩ := mem_shells.mp member
    · exact here
    · exact inner body part found inside

end

end Node

end Templating
