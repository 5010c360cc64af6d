import Templating.Proofs.Canonical.Body
import Templating.Template

/-!
A body read in order: texts, outputs and directives side by side, with the directives that continue
and end an enclosure at their places.
-/

namespace Templating

/-- What one directive says. -/
inductive Directive where
  | condition (test : Expr)
  | further (test : Expr)
  | otherwise
  | endCondition
  | loop (targets : List String) (iterable : Expr)
  | endLoop
  | binding (name : String) (value : Expr)
  | block (name : String)
  | endBlock
  | parent (name : String)
  | inclusion (name : String) (bindings : Option (List (String × Expr)))

namespace Directive

/-- Nodes keep no place of the directives that end them, nor of the word `else`. -/
def isPlaced : Directive → Bool
  | otherwise | endCondition | endLoop | endBlock => false
  | _ => true

end Directive

inductive Piece where
  | text (content : String) (position : Option Position)
  | output (expr : Expr) (position : Option Position)
  | directive (directive : Directive) (position : Option Position)

namespace Piece

def isText : Piece → Bool
  | text .. => true
  | _ => false

def isBlankText : Piece → Bool
  | text content _ => Text.isBlankText content
  | _ => false

def isParent : Piece → Bool
  | directive (.parent _) _ => true
  | _ => false

def blockName? : Piece → Option String
  | directive (.block name) _ => some name
  | _ => none

/-- Adds a piece to those before it, the last of which comes first. Text after text extends it. -/
def joinOnto : List Piece → Piece → List Piece
  | .text before first :: rest, .text content _ => .text (before ++ content) first :: rest
  | before, piece => piece :: before

/-- Texts side by side are one text, at the place of the first. -/
def joined (pieces : List Piece) : List Piece :=
  (pieces.foldl joinOnto []).reverse

/-- Blank text before the directive that names the parent is left out. -/
def settled (pieces : List Piece) : List Piece :=
  match pieces.dropWhile isBlankText with
  | .directive (.parent name) position :: rest => .directive (.parent name) position :: rest
  | _ => pieces

variable {piece : Piece} {pieces more before : List Piece}

theorem joinOnto_apart (apart : piece.isText = false) (before : List Piece) :
    joinOnto before piece = piece :: before := by
  cases piece with
  | text content position => cases apart
  | _ => cases before with
    | nil => rfl
    | cons last before => cases last <;> rfl

theorem joinOnto_append (apart : piece.isText = false) (before more : List Piece) (next : Piece) :
    joinOnto (before ++ piece :: more) next = joinOnto before next ++ piece :: more := by
  cases before with
  | nil =>
      cases piece with
      | text content position => cases apart
      | _ => rfl
  | cons last before => cases last <;> cases next <;> rfl

theorem foldl_joinOnto_append (apart : piece.isText = false) (before more : List Piece) :
    pieces.foldl joinOnto (before ++ piece :: more) =
      pieces.foldl joinOnto before ++ piece :: more := by
  induction pieces generalizing before with
  | nil => rfl
  | cons next pieces ih =>
      rw [List.foldl_cons, joinOnto_append apart, ih, List.foldl_cons]

/-- Where no text comes first, what stands before is left as it is. -/
def StartsApart (pieces : List Piece) : Prop :=
  ∀ piece ∈ pieces.head?, piece.isText = false

theorem StartsApart.append (first : StartsApart pieces) (second : StartsApart more) :
    StartsApart (pieces ++ more) := by
  cases pieces with
  | nil => exact second
  | cons piece pieces => exact first

theorem foldl_joinOnto (apart : StartsApart pieces) (before : List Piece) :
    pieces.foldl joinOnto before = (joined pieces).reverse ++ before := by
  rw [joined, List.reverse_reverse]
  cases pieces with
  | nil => rfl
  | cons piece pieces =>
      have first : piece.isText = false := apart piece rfl
      have onto : ∀ before, pieces.foldl joinOnto (piece :: before) =
          pieces.foldl joinOnto [] ++ piece :: before :=
        foldl_joinOnto_append first []
      rw [List.foldl_cons, List.foldl_cons, joinOnto_apart first, joinOnto_apart first, onto, onto,
        List.append_assoc, List.singleton_append]

theorem joined_append (apart : StartsApart more) (pieces : List Piece) :
    joined (pieces ++ more) = joined pieces ++ joined more := by
  rw [joined, List.foldl_append, foldl_joinOnto apart, List.reverse_append, List.reverse_reverse]
  rfl

theorem joined_cons (apart : piece.isText = false) (pieces : List Piece) :
    joined (piece :: pieces) = piece :: joined pieces := by
  have alone : pieces.foldl joinOnto [piece] = pieces.foldl joinOnto [] ++ [piece] :=
    foldl_joinOnto_append apart [] []
  rw [joined, List.foldl_cons, joinOnto_apart apart, alone, List.reverse_append]
  rfl

end Piece

namespace Node

mutual

/-- A node in pieces. -/
def pieces : Node → List Piece
  | text content position => [.text content position]
  | output expr position => [.output expr position]
  | condition test body branches otherwise position =>
    .directive (.condition test) position :: (bodyPieces body ++ branchesPieces branches ++
      optionPieces otherwise ++ [.directive .endCondition none])
  | loop targets iterable body otherwise position =>
    .directive (.loop targets iterable) position :: (bodyPieces body ++ optionPieces otherwise ++
      [.directive .endLoop none])
  | binding name value position => [.directive (.binding name value) position]
  | block name body position =>
    .directive (.block name) position :: (bodyPieces body ++ [.directive .endBlock none])
  | parent name position => [.directive (.parent name) position]
  | inclusion name bindings position => [.directive (.inclusion name bindings) position]

def bodyPieces : List Node → List Piece
  | [] => []
  | node :: rest => node.pieces ++ bodyPieces rest

def branchesPieces : List Branch → List Piece
  | [] => []
  | .mk test body position :: rest =>
    .directive (.further test) position :: (bodyPieces body ++ branchesPieces rest)

def optionPieces : Option (List Node) → List Piece
  | none => []
  | some body => .directive .otherwise none :: bodyPieces body

end

theorem bodyPieces_eq_flatMap (body : List Node) : bodyPieces body = body.flatMap pieces := by
  induction body with
  | nil => rfl
  | cons node body ih => rw [bodyPieces, ih, List.flatMap_cons]

theorem bodyPieces_append (body more : List Node) :
    bodyPieces (body ++ more) = bodyPieces body ++ bodyPieces more := by
  simp only [bodyPieces_eq_flatMap, List.flatMap_append]

theorem branchesPieces_append (branches more : List Branch) :
    branchesPieces (branches ++ more) = branchesPieces branches ++ branchesPieces more := by
  induction branches with
  | nil => rfl
  | cons branch branches ih =>
      obtain ⟨test, body, position⟩ := branch
      simp only [List.cons_append, branchesPieces, ih, List.append_assoc]

end Node

end Templating
