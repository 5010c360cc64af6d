import Templating.Proofs.Grammar.Accepts
import Templating.Proofs.Places

/-!
Where everything stands that a parser gives, and the token that it blames when it refuses: at a mark
of one of the tokens at hand. Nothing is placed anywhere else.
-/

namespace Templating

/-- The tokens at hand belong to the template and stand at such marks. -/
structure Cursor.Over (template : String) (marks : Mark → Prop) (cursor : Cursor) : Prop where
  template : cursor.template = template
  rest : ∀ token ∈ cursor.rest, marks token.mark
  last : marks cursor.last.mark

variable {template : String} {marks : Mark → Prop}

namespace Cursor.Over

variable {cursor : Cursor} (held : cursor.Over template marks)

include held

theorem current : marks cursor.current.mark := by
  unfold Cursor.current
  cases first : cursor.rest.head? with
  | none => exact held.last
  | some token => exact held.rest token (List.mem_of_mem_head? first)

theorem next : marks cursor.next.mark := by
  unfold Cursor.next
  cases second : cursor.rest[1]? with
  | none => exact held.last
  | some token => exact held.rest token (List.mem_of_getElem? second)

theorem advance : cursor.advance.Over template marks := by
  unfold Cursor.advance
  split
  · exact held
  · exact ⟨held.template, fun token member => held.rest token (List.mem_of_mem_drop member),
      held.last⟩

end Cursor.Over

/-- A place in the template at such a mark. -/
def Placed (template : String) (marks : Mark → Prop) (place : Option Position) : Prop :=
  ∃ mark, place = some ⟨template, mark⟩ ∧ marks mark

/-- Every expression in it has a place at such a mark. -/
def Expr.Stands (template : String) (marks : Mark → Prop) (expr : Expr) : Prop :=
  ∀ place ∈ expr.places, Placed template marks place

/-- The node itself and what is right inside it have places at such marks. -/
def Node.Stands (template : String) (marks : Mark → Prop) (node : Node) : Prop :=
  ∀ place ∈ node.places, Placed template marks place

namespace Expr

theorem stands_iff {expr : Expr} : expr.Stands template marks ↔
    Placed template marks expr.position ∧ ∀ part ∈ expr.parts, part.Stands template marks := by
  rw [Stands, places_eq, List.forall_mem_cons, List.forall_mem_flatMap]
  rfl

end Expr

namespace Node

theorem stands_iff {node : Node} : node.Stands template marks ↔
    Placed template marks node.position ∧
      (∀ place ∈ node.branchPlaces, Placed template marks place) ∧
        ∀ expr ∈ node.exprs, expr.Stands template marks := by
  rw [Stands, places, List.forall_mem_cons, List.forall_mem_append, List.forall_mem_flatMap]
  rfl

/-- The same with what stands in the bodies of the node. -/
theorem throughout_stands_iff {node : Node} : node.Throughout (Stands template marks) ↔
    node.Stands template marks ∧
      ∀ body ∈ node.bodies, BodyThroughout (Stands template marks) body := by
  rw [throughout_iff, Stands, Stands, places_shell]

end Node

namespace Grammar

open Templating.Parser

variable {α β : Type}

/-- The outcome of a parser stays at the marks, and what it gives satisfies the condition. -/
def Lands (template : String) (marks : Mark → Prop) (post : α → Prop) :
    Except Refusal (α × Cursor) → Prop
  | .ok (value, after) => after.Over template marks ∧ post value
  | .error (_, blamed) => marks blamed.mark

/-- From tokens at the marks the parser stays at the marks, and what it gives satisfies the
condition. -/
def Stays (template : String) (marks : Mark → Prop) (parser : Parser α) (post : α → Prop) : Prop :=
  ∀ ⦃cursor : Cursor⦄, cursor.Over template marks → Lands template marks post (parser cursor)

namespace Stays

variable {parser : Parser α} {onwards : α → Parser β} {post : β → Prop}

theorem pure {value : β} (holds : post value) : Stays template marks (pure value) post :=
  fun _ held => ⟨held, holds⟩

theorem refuse {cause : GrammarCause} {token : Token} (marked : marks token.mark) :
    Stays template marks (Parser.refuse cause token : Parser β) post :=
  fun _ _ => marked

theorem unexpected {token : Token} {expected : Option String} (marked : marks token.mark) :
    Stays template marks (Parser.unexpected token expected : Parser β) post :=
  refuse marked

theorem bind {first : α → Prop} (stays : Stays template marks parser first)
    (continues : ∀ value, first value → Stays template marks (onwards value) post) :
    Stays template marks (parser >>= onwards) post := by
  intro cursor held
  have lands := stays held
  rw [bind_apply]
  cases run : parser cursor with
  | error refusal =>
      rw [run] at lands
      exact lands
  | ok result =>
      rw [run] at lands
      exact continues result.1 lands.2 lands.1

theorem current : Stays template marks Parser.current fun token => marks token.mark :=
  fun _ held => ⟨held, held.current⟩

theorem next : Stays template marks Parser.next fun token => marks token.mark :=
  fun _ held => ⟨held, held.next⟩

theorem advance : Stays template marks Parser.advance fun token => marks token.mark :=
  fun _ held => ⟨held.advance, held.current⟩

theorem size : Stays template marks Parser.size fun _ => True :=
  fun _ held => ⟨held, trivial⟩

theorem position {token : Token} (marked : marks token.mark) :
    Stays template marks (positionOf token) (Placed template marks) := by
  intro cursor held
  rw [positionOf_apply, held.template]
  exact ⟨held, token.mark, rfl, marked⟩

theorem expect {kind : TokenKind} {what : String} :
    Stays template marks (Parser.expect kind what) fun token => marks token.mark := by
  intro cursor held
  rw [expect_apply]
  split
  · exact ⟨held.advance, held.current⟩
  · exact held.current

theorem accept {kind : TokenKind} : Stays template marks (Parser.accept kind) fun _ => True := by
  intro cursor held
  rw [accept_apply]
  split
  · exact ⟨held.advance, trivial⟩
  · exact ⟨held, trivial⟩

end Stays

end Grammar

end Templating
