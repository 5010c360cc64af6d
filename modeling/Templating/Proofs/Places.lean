import Templating.Proofs.Shells

/-!
The places in a template: of its nodes, of the branches of its conditions, and of its expressions, at
any depth.
-/

namespace Templating

namespace Expr

mutual

/-- The places of an expression and of all expressions in it. -/
def places : Expr → List (Option Position)
  | literal _ position | reference _ _ position => [position]
  | list items position => position :: placesAll items
  | binary _ left right position => position :: (left.places ++ right.places)
  | unary _ operand position => position :: operand.places
  | filter base _ arguments named position =>
    position :: (base.places ++ (placesAll arguments ++ placesNamed named))

def placesAll : List Expr → List (Option Position)
  | [] => []
  | item :: items => item.places ++ placesAll items

def placesNamed : List (String × Expr) → List (Option Position)
  | [] => []
  | (_, value) :: rest => value.places ++ placesNamed rest

end

theorem placesAll_eq_flatMap (items : List Expr) : placesAll items = items.flatMap places := by
  induction items with
  | nil => rfl
  | cons item items ih => rw [placesAll, ih, List.flatMap_cons]

theorem placesNamed_eq_flatMap (named : List (String × Expr)) :
    placesNamed named = (named.map (·.2)).flatMap places := by
  induction named with
  | nil => rfl
  | cons pair named ih => rw [placesNamed, ih, List.map_cons, List.flatMap_cons]

/-- The places are the expression's own and those of the expressions right inside it. -/
theorem places_eq (expr : Expr) : expr.places = expr.position :: expr.parts.flatMap places := by
  cases expr with
  | literal | reference => rfl
  | list items => rw [places, placesAll_eq_flatMap]; rfl
  | binary operator left right => simp [places, parts, Expr.position]
  | unary operator operand => simp [places, parts, Expr.position]
  | filter base name arguments named =>
      rw [places, placesAll_eq_flatMap, placesNamed_eq_flatMap, parts, List.flatMap_cons,
        List.flatMap_append]
      rfl

theorem Within.places_subset {whole part : Expr} {depth : Nat} (within : whole.Within depth part) :
    part.places ⊆ whole.places := by
  induction within with
  | whole => exact List.Subset.refl _
  | @part _ outer inner _ part ih =>
      refine fun place member => ih ?_
      rw [places_eq]
      exact List.mem_cons_of_mem _ (List.mem_flatMap.mpr ⟨inner, part, member⟩)

/-- The place of every expression inside is found. -/
theorem Within.position_mem {whole part : Expr} {depth : Nat} (within : whole.Within depth part) :
    part.position ∈ whole.places := by
  apply within.places_subset
  rw [places_eq]
  exact List.mem_cons_self

end Expr

namespace Branch

def position : Branch → Option Position
  | mk _ _ position => position

@[simp] theorem position_shell (branch : Branch) : branch.shell.position = branch.position := by
  cases branch
  rfl

end Branch

namespace Node

/-- The places of the branches right inside a node. -/
def branchPlaces : Node → List (Option Position)
  | condition _ _ branches _ _ => branches.map Branch.position
  | _ => []

/-- The places of a node and of what is right inside it, but of no node in its bodies. -/
def places (node : Node) : List (Option Position) :=
  node.position :: (node.branchPlaces ++ node.exprs.flatMap Expr.places)

@[simp] theorem places_shell (node : Node) : node.shell.places = node.places := by
  have branches : node.shell.branchPlaces = node.branchPlaces := by
    cases node <;> simp [shell, branchPlaces, Function.comp_def]
  rw [places, places, position_shell, exprs_shell, branches]

/-- All places in a body. -/
def bodyPlaces (body : List Node) : List (Option Position) :=
  (bodyShells body).flatMap places

end Node

end Templating
