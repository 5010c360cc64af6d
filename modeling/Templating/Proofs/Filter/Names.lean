import Mathlib
import Templating.Filter.Registry
import Templating.Proofs.Canonical.Keys
import Templating.Proofs.Dictionary

/-!
Which filters a template can call. A registry takes every name that the grammar reads as one, but also
reserved words, and a name with a line feed after it, which is read as the name alone.
-/

namespace Templating

open Lexer Canonical Grammar

namespace Registry

variable {candidates : Dictionary Candidate} {registry : Registry}

theorem isFilterName_of_checked {name : String} {candidate : Candidate} {entry : String × Filter}
    (passes : checked name candidate = .ok entry) : isFilterName entry.1 := by
  unfold checked at passes
  split at passes
  case isTrue valid =>
    cases candidate with
    | none => cases passes
    | some filter =>
        cases passes
        exact valid
  case isFalse => cases passes

theorem isFilterName_of_mapM {entries : Dictionary Filter}
    (passes : (candidates.mapM fun entry => checked entry.1 entry.2) = .ok entries) :
    ∀ entry ∈ entries, isFilterName entry.1 := by
  induction candidates generalizing entries with
  | nil =>
      cases passes
      simp
  | cons candidate candidates ih =>
      rw [List.mapM_cons, Outcome.bind_eq_ok] at passes
      obtain ⟨entry, first, passes⟩ := passes
      rw [Outcome.bind_eq_ok] at passes
      obtain ⟨others, rest, same⟩ := passes
      cases same
      exact List.forall_mem_cons.mpr ⟨isFilterName_of_checked first, ih rest⟩

/-- Whatever a registry was made from, it holds only names, with or without a line feed. -/
theorem isFilterName_of_find? (made : ofCandidates candidates = .ok registry) {name : String}
    {filter : Filter} (known : registry.find? name = some filter) : isFilterName name := by
  rw [ofCandidates, Outcome.bind_eq_ok] at made
  obtain ⟨entries, passes, same⟩ := made
  cases same
  exact isFilterName_of_mapM passes _ (Dictionary.mem_of_get? known)

end Registry

namespace Canonical

variable {tag : TagEnd}

/-- The variable `x` piped into a filter. -/
def piped (name : String) : Expr :=
  .filter (.reference "x" [] none) name [] [] none

theorem spells_piped (usual : tag.IsUsual) {name : String} {lexeme : Lexeme}
    (spells : Spells tag name [lexeme]) :
    Spells tag ("x" ++ " " ++ "| " ++ name) [(.identifier, "x"), (.pipe, "|"), lexeme] := by
  intro rest ends
  rw [String.toList_append, String.toList_append, String.toList_append]
  have pipe := ReadsAs.symbolBlank usual (name.toList ++ rest) ("|", .pipe) (by decide)
  have start := spells_identifier usual (by decide : IsIdentifier "x") _
    (endsLexeme_space ("| ".toList ++ (name.toList ++ rest)))
  exact ((start.append (reads_space _)).append pipe).append (spells rest ends)

end Canonical

namespace Grammar

theorem expression_piped {limit : Int} (positive : 0 < limit.toNat) (name : String) :
    Accepts (fun _ => False) (expression limit)
      [(.identifier, "x"), (.pipe, "|"), (.identifier, name)] EndsExpression
      fun read => read.unplaced = piped name := by
  obtain ⟨depth, more⟩ := Nat.exists_eq_add_of_le' positive
  have base : Accepts (fun _ => False) (primary (wholeAt limit depth))
      ((.identifier, "x") :: ([] : List Segment).flatMap segmentLexemes) EndsPath
      fun read => read.unplaced = .reference "x" [] none :=
    primary_reference "x" (List.forall_mem_nil _)
  have none : AddsArguments (fun _ => False) (wholeAt limit depth) []
      (Matches (fun _ => True) [] []) (Matches (fun _ => True) [] []) := .nil _
  rw [expression, more]
  refine wholeAt_filter (by simp [startKinds]) base none ?_
  intro value arguments position same read
  have positional : arguments.positional = [] := List.map_eq_nil_iff.mp read.byPosition
  have named : arguments.named = [] := List.map_eq_nil_iff.mp read.byName
  rw [positional, named, Expr.unplaced, same]
  rfl

end Grammar

namespace Template

/-- A template that pipes a variable into a filter. -/
def callSource (name : String) : String :=
  "\x7b\x7b x | " ++ name ++ " \x7d\x7d"

/-- Under this title the template compiles to the variable, piped into the filter of this name. -/
def Calls (title name : String) : Prop :=
  ∃ template, compile {} defaultDepth title (callSource name) = .ok template ∧
    Node.unplacedBody template.body = [.output (piped name) none]

variable {title name word : String}

theorem callSource_eq (name : String) :
    callSource name = Canonical.output {} ("x" ++ " " ++ "| " ++ name) := by
  rw [← String.toList_inj]
  simp [callSource, Canonical.output]

theorem compile_call (spells : ∀ tag : TagEnd, tag.IsUsual → Spells tag name [(wordKind word, word)])
    (identifier : IsIdentifier word) (title : String) :
    ∃ template, compile {} defaultDepth title (callSource name) = .ok template ∧
      Node.unplacedBody template.body = [.output (piped word) none] := by
  have accepts := expression_piped (by decide : 0 < defaultDepth.toNat) word
  simp only [wordKind_of_isIdentifier identifier] at spells
  rw [callSource_eq]
  rcases compile_output (fun _ usual => spells_piped usual (spells _ usual)) accepts title with
    ⟨read, position, same, compiled⟩ | ⟨_, never, _⟩
  · exact ⟨_, compiled, by simp [Node.unplacedBody, Node.unplaced, same]⟩
  · exact never.elim

theorem not_calls_reserved
    (spells : ∀ tag : TagEnd, tag.IsUsual → Spells tag name [(wordKind word, word)])
    (reserved : word ∈ reservedWords) : ¬ Calls title name := by
  rintro ⟨template, compiled, _⟩
  have kinds : ∀ word ∈ reservedWords, wordKind word ≠ .identifier := by decide
  have refuses : Refuses (Grammar.expression defaultDepth)
      [(.identifier, "x"), (.pipe, "|"), (wordKind word, word)] EndsExpression :=
    expression_refuses_filter _ "x" (kinds word reserved)
  rw [callSource_eq] at compiled
  rcases compile_output (fun _ usual => spells_piped usual (spells _ usual)) refuses title with
    ⟨_, _, never, _⟩ | ⟨_, _, refused⟩
  · exact never.elim
  · rw [compiled] at refused
    cases refused

theorem not_calls_line (line : IsLine name) : ¬ Calls title name := by
  obtain ⟨word, isName, rfl⟩ := line
  have spells : ∀ tag : TagEnd, tag.IsUsual → Spells tag (word ++ "\n") [(wordKind word, word)] :=
    fun _ usual rest _ => reads_line usual isName rest
  by_cases reserved : word ∈ reservedWords
  · exact not_calls_reserved spells reserved
  · rintro ⟨template, compiled, whole⟩
    obtain ⟨other, again, alone⟩ := compile_call spells ⟨isName, reserved⟩ title
    obtain rfl : template = other := Except.ok.inj (compiled.symm.trans again)
    have longer : word ≠ word ++ "\n" := fun same => by
      simpa using congrArg (fun text : String => text.toList.length) same
    rw [alone] at whole
    simp [piped, longer] at whole

theorem calls_iff_of_isFilterName (valid : Registry.isFilterName name) (title : String) :
    Calls title name ↔ name ∉ reservedWords ∧ ¬ IsLine name := by
  by_cases line : IsLine name
  · simp [line, not_calls_line line]
  · have isName : Text.isName name.toList := isKeyName_iff.mpr line valid
    have spells : ∀ tag : TagEnd, tag.IsUsual → Spells tag name [(wordKind name, name)] :=
      fun _ usual => spells_word usual isName
    by_cases reserved : name ∈ reservedWords
    · simp [reserved, not_calls_reserved spells reserved]
    · have calls : Calls title name := compile_call spells ⟨isName, reserved⟩ title
      simp [line, reserved, calls]

end Template

namespace Registry

open Template

/-- A filter of a registry can be called by its name if that is no reserved word and has no line feed
after it, and only then. -/
theorem find?_calls_iff {candidates : Dictionary Candidate} {registry : Registry}
    (made : ofCandidates candidates = .ok registry) {name : String} {filter : Filter}
    (known : registry.find? name = some filter) (title : String) :
    Calls title name ↔ name ∉ reservedWords ∧ ¬ IsLine name :=
  calls_iff_of_isFilterName (isFilterName_of_find? made known) title

theorem find?_calls_shout : ∃ registry filter,
    empty.withFilter "shout" (some (Builtin.plain .ok)) = .ok registry ∧
      registry.find? "shout" = some filter ∧ ∀ title, Calls title "shout" := by
  have made : empty.withFilter "shout" (some (Builtin.plain .ok)) =
      .ok ⟨[("shout", Builtin.plain .ok)]⟩ := rfl
  have known : find? ⟨[("shout", Builtin.plain .ok)]⟩ "shout" = some (Builtin.plain .ok) := rfl
  have plain : ¬ IsLine "shout" := isKeyName_iff.mp fun _ => by decide
  exact ⟨_, _, made, known, fun title => (find?_calls_iff made known title).mpr ⟨by decide, plain⟩⟩

/-- A reserved word and a name with a line feed are taken for names, and cannot be called. -/
theorem find?_not_calls :
    (∃ registry filter, empty.withFilter "if" (some (Builtin.plain .ok)) = .ok registry ∧
      registry.find? "if" = some filter ∧ ∀ title, ¬ Calls title "if") ∧
    ∃ registry filter, empty.withFilter "shout\n" (some (Builtin.plain .ok)) = .ok registry ∧
      registry.find? "shout\n" = some filter ∧ ∀ title, ¬ Calls title "shout\n" := by
  have reserved : "if" ∈ reservedWords := by decide
  have line : IsLine "shout\n" := ⟨"shout", by decide, rfl⟩
  refine ⟨⟨_, _, rfl, rfl, fun title => ?_⟩, _, _, rfl, rfl, fun title => not_calls_line line⟩
  simp [calls_iff_of_isFilterName (by decide : isFilterName "if"), reserved]

end Registry

end Templating
