import Templating.Proofs.Inheritance.Parts
import Templating.Proofs.Inheritance.Substitution

/-!
Chains of parents. What a chain resolves to depends on its templates alone: each child's blocks are
put into what its parent gives, and in strict mode nothing is added to it. One pass with the blocks
of all descendants gives the same.
-/

namespace Templating

namespace Template

/-- The blocks with which a template overrides those of its parent. -/
def overrides (template : Template) : Dictionary Node :=
  Node.outermostBody [] template.body

/-- These are the ancestors of a template, its parent first, where names are looked up like this. -/
inductive Descends (find : String → Option Template) : Template → List Template → Prop where
  | root {template : Template} (parentless : template.parent? = none) : Descends find template []
  | child {template parent : Template} {name : String} {further : List Template}
      (extended : template.parent? = some name) (found : find name = some parent)
      (above : Descends find parent further) : Descends find template (parent :: further)

theorem Descends.mono {find other : String → Option Template} {template : Template}
    {ancestors : List Template} (descends : Descends find template ancestors)
    (keeps : ∀ name found, find name = some found → other name = some found) :
    Descends other template ancestors := by
  induction descends with
  | root parentless => exact .root parentless
  | child extended found _ ih => exact .child extended (keeps _ _ found) ih

/-- A template has one list of ancestors at most. -/
theorem Descends.unique {find : String → Option Template} {template : Template}
    {ancestors others : List Template} (descends : Descends find template ancestors)
    (again : Descends find template others) : others = ancestors := by
  induction descends generalizing others with
  | root parentless =>
      cases again with
      | root => rfl
      | child extended => rw [parentless] at extended; cases extended
  | child extended found _ ih =>
      cases again with
      | root parentless => rw [parentless] at extended; cases extended
      | child extendedAgain foundAgain above =>
          rw [extended] at extendedAgain
          cases extendedAgain
          rw [found] at foundAgain
          cases foundAgain
          rw [ih above]

/-- What a template and its ancestors give: each child's blocks in the body of its parent, and those
that the parent lacks behind it. -/
def merged (template : Template) : List Template → List Node
  | [] => template.body
  | parent :: further =>
    let below := parent.merged further
    Node.substituteBody template.overrides below ++
      (Resolver.unknownBlocks template.overrides below).map (·.2)

/-- Every block that overrides one has one to override. -/
def Complete (template : Template) : List Template → Prop
  | [] => True
  | parent :: further =>
    Resolver.unknownBlocks template.overrides (parent.merged further) = [] ∧
      parent.Complete further

end Template

end Templating
