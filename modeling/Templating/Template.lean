import Templating.Expr
import Templating.Text.Character

/-!
Templates: a name, a body of nodes, and the source they were read from.
-/

namespace Templating

mutual

inductive Node where
  | text (content : String) (position : Option Position)
  | output (expr : Expr) (position : Option Position)
  | condition (test : Expr) (body : List Node) (branches : List Branch)
      (otherwise : Option (List Node)) (position : Option Position)
  | loop (targets : List String) (iterable : Expr) (body : List Node)
      (otherwise : Option (List Node)) (position : Option Position)
  | binding (name : String) (value : Expr) (position : Option Position)
  | block (name : String) (body : List Node) (position : Option Position)
  | parent (name : String) (position : Option Position)
  | inclusion (name : String) (bindings : Option (List (String × Expr)))
      (position : Option Position)

/-- A further test of a condition, tried when those before it fail. -/
inductive Branch where
  | mk (test : Expr) (body : List Node) (position : Option Position)

end

deriving instance Repr for Node, Branch

instance : Inhabited Node := ⟨.text "" none⟩

structure Template where
  name : String
  body : List Node
  source : String := ""
deriving Repr, Inhabited

namespace Node

def position : Node → Option Position
  | text _ position | output _ position | condition _ _ _ _ position | loop _ _ _ _ position
  | binding _ _ position | block _ _ position | parent _ position | inclusion _ _ position =>
    position

def isParent : Node → Bool
  | parent .. => true
  | _ => false

def isBlankText : Node → Bool
  | text content _ => Text.isBlankText content
  | _ => false

mutual

/-- The node without its places. -/
def unplaced : Node → Node
  | text content _ => text content none
  | output expr _ => output expr.unplaced none
  | condition test body branches otherwise _ =>
    condition test.unplaced (unplacedBody body) (unplacedBranches branches)
      (unplacedOption otherwise) none
  | loop targets iterable body otherwise _ =>
    loop targets iterable.unplaced (unplacedBody body) (unplacedOption otherwise) none
  | binding name value _ => binding name value.unplaced none
  | block name body _ => block name (unplacedBody body) none
  | parent name _ => parent name none
  | inclusion name bindings _ => inclusion name (bindings.map Expr.unplacedNamed) none

def unplacedBody : List Node → List Node
  | [] => []
  | node :: rest => node.unplaced :: unplacedBody rest

def unplacedBranch : Branch → Branch
  | .mk test body _ => .mk test.unplaced (unplacedBody body) none

def unplacedBranches : List Branch → List Branch
  | [] => []
  | branch :: rest => unplacedBranch branch :: unplacedBranches rest

def unplacedOption : Option (List Node) → Option (List Node)
  | none => none
  | some body => some (unplacedBody body)

end

def sameBindings : Option (List (String × Expr)) → Option (List (String × Expr)) → Bool
  | none, none => true
  | some left, some right => Expr.sameNamed left right
  | _, _ => false

mutual

/-- Whether two nodes differ at most in places. -/
def same : Node → Node → Bool
  | text left _, text right _ => left == right
  | output left _, output right _ => left.same right
  | condition test body branches otherwise _, condition test' body' branches' otherwise' _ =>
    test.same test' && sameBody body body' && sameBranches branches branches' &&
      sameOption otherwise otherwise'
  | loop targets iterable body otherwise _, loop targets' iterable' body' otherwise' _ =>
    targets == targets' && iterable.same iterable' && sameBody body body' &&
      sameOption otherwise otherwise'
  | binding name value _, binding name' value' _ => name == name' && value.same value'
  | block name body _, block name' body' _ => name == name' && sameBody body body'
  | parent left _, parent right _ => left == right
  | inclusion name bindings _, inclusion name' bindings' _ =>
    name == name' && sameBindings bindings bindings'
  | _, _ => false

def sameBody : List Node → List Node → Bool
  | [], [] => true
  | left :: lefts, right :: rights => left.same right && sameBody lefts rights
  | _, _ => false

def sameBranch : Branch → Branch → Bool
  | .mk test body _, .mk test' body' _ => test.same test' && sameBody body body'

def sameBranches : List Branch → List Branch → Bool
  | [], [] => true
  | left :: lefts, right :: rights => sameBranch left right && sameBranches lefts rights
  | _, _ => false

def sameOption : Option (List Node) → Option (List Node) → Bool
  | none, none => true
  | some left, some right => sameBody left right
  | _, _ => false

end

end Node

namespace Template

/-- The template that this one extends, named by its first node. -/
def parent? (template : Template) : Option String :=
  match template.body with
  | .parent name _ :: _ => some name
  | _ => none

def parentPosition (template : Template) : Option Position :=
  match template.body with
  | .parent _ position :: _ => position
  | _ => none

end Template

end Templating
