import Templating.Proofs.Text.Ascii
import Templating.Text.Escape

/-!
Clean text, in which no character has a meaning in markup, but for the entities that stand for
such characters. Escaping makes every text clean.
-/

namespace Templating.Text

/-- The characters with a meaning in markup. -/
def markupChars : List Char := ['<', '>', '&', '"', '\'']

def entities : List String := ["&amp;", "&lt;", "&gt;", "&quot;", "&#x27;"]

/-- Made of characters without a meaning in markup and of entities. -/
inductive IsClean : List Char → Prop
  | nil : IsClean []
  | plain {c : Char} {rest : List Char} (ordinary : c ∉ markupChars) (clean : IsClean rest) :
    IsClean (c :: rest)
  | entity {name : String} {rest : List Char} (known : name ∈ entities) (clean : IsClean rest) :
    IsClean (name.toList ++ rest)

namespace IsClean

theorem append {left right : List Char} (first : IsClean left) (second : IsClean right) :
    IsClean (left ++ right) := by
  induction first with
  | nil => exact second
  | plain ordinary _ ih => exact .plain ordinary ih
  | entity known _ ih =>
      rw [List.append_assoc]
      exact .entity known ih

theorem ofPlain {text : List Char} (ordinary : ∀ c ∈ text, c ∉ markupChars) : IsClean text := by
  induction text with
  | nil => exact .nil
  | cons c rest ih =>
      rw [List.forall_mem_cons] at ordinary
      exact .plain ordinary.1 (ih ordinary.2)

theorem ofEntity {name : String} (known : name ∈ entities) : IsClean name.toList := by
  rw [← List.append_nil name.toList]
  exact .entity known .nil

end IsClean

theorem escapeChar_clean (c : Char) : IsClean (escapeChar c) := by
  unfold escapeChar
  repeat' split
  · exact .ofEntity (by simp [entities])
  · exact .ofEntity (by simp [entities])
  · exact .ofEntity (by simp [entities])
  · exact .ofEntity (by simp [entities])
  · exact .ofEntity (by simp [entities])
  · apply IsClean.ofPlain
    simp [markupChars, *]

/-- Escaped text is clean. -/
theorem escapeMarkup_clean (text : String) : IsClean (escapeMarkup text).toList := by
  rw [escapeMarkup, String.toList_ofList]
  induction text.toList with
  | nil => exact .nil
  | cons c rest ih =>
      rw [List.flatMap_cons]
      exact (escapeChar_clean c).append ih

end Templating.Text
