import Templating.Proofs.Grammar.ParsedTemplate
import Templating.Proofs.Inheritance.Gathering
import Templating.Proofs.Inheritance.Store
import Templating.Proofs.Loader

/-!
Chains in lenient mode, level by level: what a template makes of the body of its parent, told by the
list of its outermost blocks in the order of the source.
-/

namespace Templating

namespace Node

mutual

/-- The blocks in a node that are in no other block of it, by name and in the order of the source. -/
def outermostBlocks : Node → List (String × Node)
  | block name body position => [(name, block name body position)]
  | condition _ body branches otherwise _ =>
    bodyOutermostBlocks body ++ branchesOutermostBlocks branches ++ optionOutermostBlocks otherwise
  | loop _ _ body otherwise _ => bodyOutermostBlocks body ++ optionOutermostBlocks otherwise
  | _ => []

def bodyOutermostBlocks : List Node → List (String × Node)
  | [] => []
  | node :: rest => node.outermostBlocks ++ bodyOutermostBlocks rest

def branchOutermostBlocks : Branch → List (String × Node)
  | .mk _ body _ => bodyOutermostBlocks body

def branchesOutermostBlocks : List Branch → List (String × Node)
  | [] => []
  | branch :: rest => branchOutermostBlocks branch ++ branchesOutermostBlocks rest

def optionOutermostBlocks : Option (List Node) → List (String × Node)
  | none => []
  | some body => bodyOutermostBlocks body

end

open Dictionary (update update_append)

mutual

theorem outermost_eq : ∀ (node : Node) (found : Dictionary Node),
    outermost found node = found.update node.outermostBlocks
  | .block _ _ _, _ => rfl
  | .condition _ body branches otherwise _, found => by
    rw [outermost, outermostBlocks, update_append, update_append, outermostBody_eq body,
      outermostBranches_eq branches, outermostOption_eq otherwise]
  | .loop _ _ body otherwise _, found => by
    rw [outermost, outermostBlocks, update_append, outermostBody_eq body,
      outermostOption_eq otherwise]
  | .text _ _, _ | .output _ _, _ | .binding _ _ _, _ | .parent _ _, _ | .inclusion _ _ _, _ => rfl

/-- The blocks that are collected are those of the list, set one after the other. -/
theorem outermostBody_eq : ∀ (body : List Node) (found : Dictionary Node),
    outermostBody found body = found.update (bodyOutermostBlocks body)
  | [], _ => rfl
  | node :: rest, found => by
    rw [outermostBody, bodyOutermostBlocks, update_append, outermost_eq node,
      outermostBody_eq rest]

theorem outermostBranch_eq : ∀ (branch : Branch) (found : Dictionary Node),
    outermostBranch found branch = found.update (branchOutermostBlocks branch)
  | .mk _ body _, found => outermostBody_eq body found

theorem outermostBranches_eq : ∀ (branches : List Branch) (found : Dictionary Node),
    outermostBranches found branches = found.update (branchesOutermostBlocks branches)
  | [], _ => rfl
  | branch :: rest, found => by
    rw [outermostBranches, branchesOutermostBlocks, update_append, outermostBranch_eq branch,
      outermostBranches_eq rest]

theorem outermostOption_eq : ∀ (body : Option (List Node)) (found : Dictionary Node),
    outermostOption found body = found.update (optionOutermostBlocks body)
  | none, _ => rfl
  | some body, found => outermostBody_eq body found

end

mutual

theorem outermostBlocks_sublist : ∀ node : Node,
    (node.outermostBlocks.map (·.1)).Sublist node.blockNames
  | .block name body _ => List.singleton_sublist.mpr List.mem_cons_self
  | .condition _ body branches otherwise _ => by
    rw [outermostBlocks, blockNames, List.map_append, List.map_append]
    exact ((bodyOutermostBlocks_sublist body).append
      (branchesOutermostBlocks_sublist branches)).append (optionOutermostBlocks_sublist otherwise)
  | .loop _ _ body otherwise _ => by
    rw [outermostBlocks, blockNames, List.map_append]
    exact (bodyOutermostBlocks_sublist body).append (optionOutermostBlocks_sublist otherwise)
  | .text _ _ | .output _ _ | .binding _ _ _ | .parent _ _ | .inclusion _ _ _ =>
    List.nil_sublist _

theorem bodyOutermostBlocks_sublist : ∀ body : List Node,
    ((bodyOutermostBlocks body).map (·.1)).Sublist (bodyBlockNames body)
  | [] => List.nil_sublist _
  | node :: rest => by
    rw [bodyOutermostBlocks, bodyBlockNames, List.map_append]
    exact (outermostBlocks_sublist node).append (bodyOutermostBlocks_sublist rest)

theorem branchOutermostBlocks_sublist : ∀ branch : Branch,
    ((branchOutermostBlocks branch).map (·.1)).Sublist (branchBlockNames branch)
  | .mk _ body _ => bodyOutermostBlocks_sublist body

theorem branchesOutermostBlocks_sublist : ∀ branches : List Branch,
    ((branchesOutermostBlocks branches).map (·.1)).Sublist (branchesBlockNames branches)
  | [] => List.nil_sublist _
  | branch :: rest => by
    rw [branchesOutermostBlocks, branchesBlockNames, List.map_append]
    exact (branchOutermostBlocks_sublist branch).append (branchesOutermostBlocks_sublist rest)

theorem optionOutermostBlocks_sublist : ∀ body : Option (List Node),
    ((optionOutermostBlocks body).map (·.1)).Sublist (optionBlockNames body)
  | none => List.nil_sublist _
  | some body => bodyOutermostBlocks_sublist body

end

end Node

open Node

namespace Template

/-- The outermost blocks of a template by name, in the order of the source. Of blocks of one name,
which only templates that are not compiled can have, the last one counts, in the place of the first. -/
def blocks (template : Template) : Dictionary Node :=
  Dictionary.ofList (bodyOutermostBlocks template.body)

end Template

namespace Resolver

variable {σ : Type} {source : Source σ} {options : Options}

theorem chain_yields {name : String} {template : Template} {before middle after : State σ}
    {above : Chain} (loaded : before.table.get? name = some template)
    (kept : before.Extends middle)
    (followed : chain source options [] options.depth template middle = (.ok above, after)) :
    Yields options after.table.get? name above.body := by
  obtain ⟨ancestors, descends, follows⟩ := chain_follows List.nodup_nil followed
  have found := chain_extends followed name template (kept name template loaded)
  exact ⟨template, ancestors, above, found, descends, follows, rfl⟩

end Resolver

end Templating
