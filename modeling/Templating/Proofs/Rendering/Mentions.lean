import Templating.Proofs.Dictionary
import Templating.Rendering

/-!
The variables that a template mentions, and scopes that mean the same by some names.
-/

namespace Templating

namespace Expr

mutual

/-- The names of all variables in an expression, without the paths into them. -/
def mentions : Expr → List String
  | literal _ _ => []
  | reference name _ _ => [name]
  | list items _ => allMentions items
  | binary _ left right _ => left.mentions ++ right.mentions
  | unary _ operand _ => operand.mentions
  | filter base _ arguments named _ =>
    base.mentions ++ allMentions arguments ++ namedMentions named

def allMentions : List Expr → List String
  | [] => []
  | item :: items => item.mentions ++ allMentions items

def namedMentions : List (String × Expr) → List String
  | [] => []
  | (_, value) :: rest => value.mentions ++ namedMentions rest

end

end Expr

namespace Node

mutual

/-- The names of all variables in the expressions of a node and of what is inside it. -/
def mentions : Node → List String
  | text _ _ | parent _ _ => []
  | output expr _ | binding _ expr _ => expr.mentions
  | condition test body branches otherwise _ =>
    test.mentions ++ bodyMentions body ++ branchesMentions branches ++ optionMentions otherwise
  | loop _ iterable body otherwise _ =>
    iterable.mentions ++ bodyMentions body ++ optionMentions otherwise
  | block _ body _ => bodyMentions body
  | inclusion _ bindings _ => Expr.namedMentions (bindings.getD [])

def bodyMentions : List Node → List String
  | [] => []
  | node :: rest => node.mentions ++ bodyMentions rest

def branchMentions : Branch → List String
  | .mk test body _ => test.mentions ++ bodyMentions body

def branchesMentions : List Branch → List String
  | [] => []
  | branch :: rest => branchMentions branch ++ branchesMentions rest

def optionMentions : Option (List Node) → List String
  | none => []
  | some body => bodyMentions body

end

end Node

/-- The names of all variables in the body and in the bodies that it includes. -/
def Resolved.mentions (resolved : Resolved) : List String :=
  Node.bodyMentions resolved.body ++
    resolved.includes.flatMap fun included => Node.bodyMentions included.2

namespace Scope

/-- Each of these names means the same in both scopes, or nothing in both. -/
def Agrees (names : String → Prop) (left right : Scope) : Prop :=
  ∀ name, names name → left.lookup? name = right.lookup? name

theorem lookup?_push (scope : Scope) (frame : Frame) (name : String) :
    (scope.push frame).lookup? name = (Dictionary.get? frame name).or (scope.lookup? name) := by
  rw [lookup?, frames, push, List.cons_append, List.findSome?_cons]
  cases Dictionary.get? frame name <;> rfl

theorem lookup?_set (scope : Scope) (name other : String) (value : Value) :
    (scope.set name value).lookup? other =
      if other = name then some value else scope.lookup? other := by
  obtain ⟨root, inner⟩ := scope
  cases inner with
  | nil =>
      simp only [set, lookup?, frames, List.nil_append, List.findSome?_singleton, Dictionary.get?_set]
  | cons frame rest =>
      change (push ⟨root, rest⟩ (Dictionary.set frame name value)).lookup? other =
        if other = name then some value else (push ⟨root, rest⟩ frame).lookup? other
      rw [lookup?_push, lookup?_push, Dictionary.get?_set]
      split <;> rfl

namespace Agrees

variable {names : String → Prop} {left right : Scope}

theorem refl (names : String → Prop) (scope : Scope) : Agrees names scope scope :=
  fun _ _ => rfl

theorem push (agrees : Agrees names left right) (frame : Frame) :
    Agrees names (left.push frame) (right.push frame) := by
  intro name known
  rw [lookup?_push, lookup?_push, agrees name known]

theorem set (agrees : Agrees names left right) (name : String) (value : Value) :
    Agrees names (left.set name value) (right.set name value) := by
  intro other known
  rw [lookup?_set, lookup?_set, agrees other known]

end Agrees

end Scope

end Templating
