import Templating.Inheritance
import Templating.Proofs.Shells

/-!
The inclusions in a body: all that stand in it, however deep, are found, and no others.
-/

namespace Templating

namespace Node

/-- A directive to include the template of this name stands somewhere in the body. -/
inductive Includes : List Node → String → Prop where
  | here {body : List Node} {name : String} {bindings : Option (List (String × Expr))}
      {position : Option Position} (member : inclusion name bindings position ∈ body) :
      Includes body name
  | inside {body inner : List Node} {node : Node} {name : String} (member : node ∈ body)
      (part : inner ∈ node.bodies) (included : Includes inner name) : Includes body name

theorem mem_bodyInclusions {body : List Node} {found : Inclusion} :
    found ∈ bodyInclusions body ↔ ∃ node ∈ body, found ∈ node.inclusions := by
  induction body with
  | nil => simp [bodyInclusions]
  | cons node rest ih => simp [bodyInclusions, ih]

theorem mem_branchesInclusions {branches : List Branch} {found : Inclusion} :
    found ∈ branchesInclusions branches ↔
      ∃ branch ∈ branches, found ∈ bodyInclusions branch.body := by
  induction branches with
  | nil => simp [branchesInclusions]
  | cons branch rest ih =>
      obtain ⟨test, body, position⟩ := branch
      simp [branchesInclusions, branchInclusions, Branch.body, ih]

theorem mem_optionInclusions {otherwise : Option (List Node)} {found : Inclusion} :
    found ∈ optionInclusions otherwise ↔ ∃ body ∈ otherwise.toList, found ∈ bodyInclusions body := by
  cases otherwise <;> simp [optionInclusions]

theorem optionInclusions_eq (otherwise : Option (List Node)) :
    optionInclusions otherwise = bodyInclusions (otherwise.getD []) := by
  cases otherwise <;> rfl

/-- An inclusion in a node is the node itself or is in one of its bodies. -/
theorem mem_inclusions {node : Node} {found : Inclusion} :
    found ∈ node.inclusions ↔
      (∃ bindings, node = .inclusion found.name bindings found.position) ∨
        ∃ body ∈ node.bodies, found ∈ bodyInclusions body := by
  cases node with
  | inclusion name bindings position =>
      obtain ⟨other, place⟩ := found
      simp [inclusions, bodies, eq_comm]
  | condition test body branches otherwise position =>
      simp [inclusions, bodies, mem_branchesInclusions, mem_optionInclusions, or_and_right,
        exists_or]
  | loop targets iterable body otherwise position =>
      simp [inclusions, bodies, mem_optionInclusions]
  | block name body position => simp [inclusions, bodies]
  | text | output | binding | parent => simp [inclusions, bodies]

/-- Every inclusion whose shell stands in the body is found, with its place. -/
theorem mem_bodyInclusions_of_shells {body : List Node} {name : String}
    {bindings : Option (List (String × Expr))} {position : Option Position}
    (member : inclusion name bindings position ∈ bodyShells body) :
    ⟨name, position⟩ ∈ bodyInclusions body := by
  obtain ⟨node, among, inner⟩ := mem_bodyShells.mp member
  refine mem_bodyInclusions.mpr ⟨node, among, mem_inclusions.mpr ?_⟩
  obtain same | ⟨content, part, inside⟩ := mem_shells.mp inner
  · left
    cases node <;> cases same
    exact ⟨bindings, rfl⟩
  · have smaller := sizeOf_lt_of_mem_bodies among part
    exact .inr ⟨content, part, mem_bodyInclusions_of_shells inside⟩
termination_by sizeOf body

theorem mem_inclusions_of_shells {node : Node} {name : String}
    {bindings : Option (List (String × Expr))} {position : Option Position}
    (member : inclusion name bindings position ∈ node.shells) :
    ⟨name, position⟩ ∈ node.inclusions := by
  have alone : inclusion name bindings position ∈ bodyShells [node] :=
    mem_bodyShells.mpr ⟨node, List.mem_cons_self, member⟩
  simpa [bodyInclusions] using mem_bodyInclusions_of_shells alone

theorem exists_mem_bodyShells {body : List Node} {found : Inclusion}
    (member : found ∈ bodyInclusions body) :
    ∃ bindings, inclusion found.name bindings found.position ∈ bodyShells body := by
  obtain ⟨node, among, inner⟩ := mem_bodyInclusions.mp member
  obtain ⟨bindings, rfl⟩ | ⟨content, part, inside⟩ := mem_inclusions.mp inner
  · exact ⟨bindings, mem_bodyShells.mpr ⟨_, among, mem_shells.mpr (.inl rfl)⟩⟩
  · have smaller := sizeOf_lt_of_mem_bodies among part
    obtain ⟨bindings, there⟩ := exists_mem_bodyShells inside
    exact ⟨bindings, mem_bodyShells.mpr ⟨node, among, mem_shells.mpr (.inr ⟨content, part, there⟩)⟩⟩
termination_by sizeOf body

theorem Includes.mem {body : List Node} {name : String} (includes : Includes body name) :
    ∃ found ∈ bodyInclusions body, found.name = name := by
  induction includes with
  | here member =>
      exact ⟨⟨_, _⟩, mem_bodyInclusions.mpr ⟨_, member, mem_inclusions.mpr (.inl ⟨_, rfl⟩)⟩, rfl⟩
  | inside member part _ ih =>
      obtain ⟨found, inner, same⟩ := ih
      exact ⟨found, mem_bodyInclusions.mpr ⟨_, member, mem_inclusions.mpr (.inr ⟨_, part, inner⟩)⟩,
        same⟩

theorem includes_of_mem {body : List Node} {found : Inclusion}
    (member : found ∈ bodyInclusions body) : Includes body found.name := by
  obtain ⟨node, among, inner⟩ := mem_bodyInclusions.mp member
  obtain ⟨bindings, rfl⟩ | ⟨content, part, inside⟩ := mem_inclusions.mp inner
  · exact .here among
  · have smaller := sizeOf_lt_of_mem_bodies among part
    exact .inside among part (includes_of_mem inside)
termination_by sizeOf body

end Node

end Templating
