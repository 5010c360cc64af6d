import Templating.Inheritance
import Templating.Proofs.Dictionary

/-!
Substitution of blocks: two passes are one pass with the blocks of both, in which the first pass is
already made inside the blocks of the second.
-/

namespace Templating.Node

/-- Every entry is a block under its own name. -/
def NamedBlocks (blocks : Dictionary Node) : Prop :=
  ∀ entry ∈ blocks, ∃ body position, entry.2 = .block entry.1 body position

theorem NamedBlocks.get? {blocks : Dictionary Node} (named : NamedBlocks blocks) {name : String}
    {node : Node} (found : blocks.get? name = some node) :
    ∃ body position, node = .block name body position :=
  named _ (Dictionary.mem_of_get? found)

theorem NamedBlocks.set {blocks : Dictionary Node} (named : NamedBlocks blocks) (name : String)
    (body : List Node) (position : Option Position) :
    NamedBlocks (blocks.set name (.block name body position)) := by
  intro entry member
  obtain old | rfl := Dictionary.mem_set member
  · exact named entry old
  · exact ⟨body, position, rfl⟩

mutual

theorem outermost_named : ∀ (node : Node) {found : Dictionary Node}, NamedBlocks found →
    NamedBlocks (outermost found node)
  | .block name body position, _, named => named.set name body position
  | .condition _ body branches otherwise _, _, named =>
    outermostOption_named otherwise
      (outermostBranches_named branches (outermostBody_named body named))
  | .loop _ _ body otherwise _, _, named =>
    outermostOption_named otherwise (outermostBody_named body named)
  | .text _ _, _, named | .output _ _, _, named | .binding _ _ _, _, named
  | .parent _ _, _, named | .inclusion _ _ _, _, named => named

theorem outermostBody_named : ∀ (body : List Node) {found : Dictionary Node}, NamedBlocks found →
    NamedBlocks (outermostBody found body)
  | [], _, named => named
  | node :: rest, _, named => outermostBody_named rest (outermost_named node named)

theorem outermostBranch_named : ∀ (branch : Branch) {found : Dictionary Node}, NamedBlocks found →
    NamedBlocks (outermostBranch found branch)
  | .mk _ body _, _, named => outermostBody_named body named

theorem outermostBranches_named : ∀ (branches : List Branch) {found : Dictionary Node},
    NamedBlocks found → NamedBlocks (outermostBranches found branches)
  | [], _, named => named
  | branch :: rest, _, named =>
    outermostBranches_named rest (outermostBranch_named branch named)

theorem outermostOption_named : ∀ (body : Option (List Node)) {found : Dictionary Node},
    NamedBlocks found → NamedBlocks (outermostOption found body)
  | none, _, named => named
  | some body, _, named => outermostBody_named body named

end

/-- Puts blocks in place of those of the same names inside a block, which stays itself. -/
def substituteInside (overrides : Dictionary Node) : Node → Node
  | block name body position => block name (substituteBody overrides body) position
  | node => node

/-- The blocks of one pass together with those of an earlier pass that it does not replace. -/
def fuse (later earlier : Dictionary Node) : Dictionary Node :=
  later ++ (earlier.filter fun entry => !later.has entry.1).map fun entry =>
    (entry.1, entry.2.substituteInside later)

theorem get?_fuse (later earlier : Dictionary Node) (name : String) :
    (fuse later earlier).get? name =
      (later.get? name).or ((earlier.get? name).map (substituteInside later)) := by
  rw [fuse, Dictionary.get?_append]
  cases replaced : later.get? name with
  | some node => rfl
  | none =>
      have absent : later.has name = false := by rw [Dictionary.has_eq_isSome, replaced]; rfl
      rw [Option.none_or, Option.none_or]
      induction earlier with
      | nil => rfl
      | cons entry rest ih =>
          rw [Dictionary.get?_cons]
          by_cases same : entry.1 = name
          · have kept : (!later.has entry.1) = true := by rw [same, absent]; rfl
            rw [List.filter_cons, if_pos kept, List.map_cons, Dictionary.get?_cons, if_pos same,
              if_pos same]
            rfl
          · rw [if_neg same, ← ih, List.filter_cons]
            split
            · rw [List.map_cons, Dictionary.get?_cons, if_neg same]
            · rfl

variable {later earlier : Dictionary Node}

mutual

theorem substitute_substitute (named : NamedBlocks earlier) : ∀ node : Node,
    (node.substitute earlier).substitute later = node.substitute (fuse later earlier)
  | .block name body position => by
    rw [substitute, substitute, get?_fuse]
    cases old : earlier.get? name with
    | some replacement =>
        obtain ⟨inner, place, rfl⟩ := named.get? old
        dsimp only
        rw [substitute]
        cases later.get? name <;> rfl
    | none =>
        dsimp only
        rw [substitute, substituteBody_substituteBody named body]
        cases later.get? name <;> rfl
  | .condition test body branches otherwise position => by
    rw [substitute, substitute, substitute, substituteBody_substituteBody named body,
      substituteBranches_substituteBranches named branches,
      substituteOption_substituteOption named otherwise]
  | .loop targets iterable body otherwise position => by
    rw [substitute, substitute, substitute, substituteBody_substituteBody named body,
      substituteOption_substituteOption named otherwise]
  | .text _ _ | .output _ _ | .binding _ _ _ | .parent _ _ | .inclusion _ _ _ => rfl

/-- Any two passes are one pass. -/
theorem substituteBody_substituteBody (named : NamedBlocks earlier) : ∀ body : List Node,
    substituteBody later (substituteBody earlier body) = substituteBody (fuse later earlier) body
  | [] => rfl
  | node :: rest => by
    rw [substituteBody, substituteBody, substituteBody, substitute_substitute named node,
      substituteBody_substituteBody named rest]

theorem substituteBranch_substituteBranch (named : NamedBlocks earlier) : ∀ branch : Branch,
    substituteBranch later (substituteBranch earlier branch) =
      substituteBranch (fuse later earlier) branch
  | .mk test body position => by
    rw [substituteBranch, substituteBranch, substituteBranch,
      substituteBody_substituteBody named body]

theorem substituteBranches_substituteBranches (named : NamedBlocks earlier) :
    ∀ branches : List Branch,
      substituteBranches later (substituteBranches earlier branches) =
        substituteBranches (fuse later earlier) branches
  | [] => rfl
  | branch :: rest => by
    rw [substituteBranches, substituteBranches, substituteBranches,
      substituteBranch_substituteBranch named branch,
      substituteBranches_substituteBranches named rest]

theorem substituteOption_substituteOption (named : NamedBlocks earlier) :
    ∀ body : Option (List Node),
      substituteOption later (substituteOption earlier body) =
        substituteOption (fuse later earlier) body
  | none => rfl
  | some body => by
    rw [substituteOption, substituteOption, substituteOption,
      substituteBody_substituteBody named body]

end

mutual

theorem substitute_nil : ∀ node : Node, node.substitute [] = node
  | .block name body position => by
    rw [substitute, substituteBody_nil body]
    rfl
  | .condition _ body branches otherwise _ => by
    rw [substitute, substituteBody_nil body, substituteBranches_nil branches,
      substituteOption_nil otherwise]
  | .loop _ _ body otherwise _ => by
    rw [substitute, substituteBody_nil body, substituteOption_nil otherwise]
  | .text _ _ | .output _ _ | .binding _ _ _ | .parent _ _ | .inclusion _ _ _ => rfl

theorem substituteBody_nil : ∀ body : List Node, substituteBody [] body = body
  | [] => rfl
  | node :: rest => by rw [substituteBody, substitute_nil node, substituteBody_nil rest]

theorem substituteBranch_nil : ∀ branch : Branch, substituteBranch [] branch = branch
  | .mk _ body _ => by rw [substituteBranch, substituteBody_nil body]

theorem substituteBranches_nil : ∀ branches : List Branch, substituteBranches [] branches = branches
  | [] => rfl
  | branch :: rest => by
    rw [substituteBranches, substituteBranch_nil branch, substituteBranches_nil rest]

theorem substituteOption_nil : ∀ body : Option (List Node), substituteOption [] body = body
  | none => rfl
  | some body => by rw [substituteOption, substituteBody_nil body]

end

end Templating.Node
