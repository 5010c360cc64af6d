import Mathlib
import Templating.Proofs.Canonical.Depth
import Templating.Proofs.Grammar.Reserved

/-!
Keys of paths and names of arguments in canonical source. They stand there without quotes or as
strings, whichever they need, and are read again. Only a name that a line feed follows is not, because
it is taken for a name and the line feed for a blank.
-/

namespace Templating

open Lexer Canonical Grammar

/-- A name and a line feed after it. -/
def IsLine (key : String) : Prop :=
  ∃ word : String, Text.isName word.toList ∧ key = word ++ "\n"

theorem isNameLine_line {word : String} (name : Text.isName word.toList) :
    Text.isNameLine (word.toList ++ ['\n']) := by
  simp [Text.isNameLine, name]

theorem not_isName_line (word : String) : ¬ Text.isName (word ++ "\n").toList := by
  have plain : Text.isNamePart '\n' = false := by decide
  have start : Text.isNameStart '\n' = false := by decide
  cases spelled : word.toList with
  | nil => simp [Text.isName, spelled, start]
  | cons c rest => simp [Text.isName, spelled, plain]

theorem isKeyName_iff {key : String} : IsKeyName key ↔ ¬ IsLine key := by
  constructor
  · rintro known ⟨word, name, rfl⟩
    exact not_isName_line word (known (by simpa using isNameLine_line name))
  · intro plain passes
    simp only [Text.isNameLine, Bool.or_eq_true, Bool.and_eq_true, beq_iff_eq] at passes
    rcases passes with name | ⟨last, name⟩
    · exact name
    · refine absurd ⟨String.ofList key.toList.dropLast, by simpa using name, ?_⟩ plain
      rw [← String.toList_inj, String.toList_append, String.toList_ofList]
      exact (List.dropLast_append_getLast? _ last).symm

namespace Canonical

theorem isBareName_line {word : String} (name : Text.isName word.toList) :
    isBareName (word ++ "\n") := by
  have unreserved : word ++ "\n" ∉ reservedWords := by
    intro reserved
    have visible : ∀ other ∈ reservedWords, '\n' ∉ other.toList := by decide
    exact visible _ reserved (by simp)
  simp [isBareName, isNameLine_line name, unreserved]

variable {tag : TagEnd} {word : String}

/-- The line feed after a name leaves nothing. -/
theorem reads_line (usual : tag.IsUsual) (name : Text.isName word.toList) (rest : List Char) :
    ReadsAs tag (word ++ "\n").toList rest [(wordKind word, word)] := by
  have ends : ∀ c ∈ ('\n' :: rest).head?, Text.isNamePart c = false := by
    intro c same
    cases same
    decide
  have reads := ReadsAs.name usual name ends
  rw [String.ofList_toList] at reads
  rw [String.toList_append]
  exact reads.append (ReadsAs.white (by decide))

/-- A variable with a path of one key. -/
def keyed (key : String) : Expr :=
  .reference "x" [.key key] none

/-- A filter with one argument that has a name. -/
def applied (key : String) : Expr :=
  .filter (.reference "x" [] none) "f" [] [(key, .literal (.number (.int 1)) none)] none

theorem spells_keyed_line (usual : tag.IsUsual) (name : Text.isName word.toList) :
    Spells tag (expression (keyed (word ++ "\n")))
      [(.identifier, "x"), (.dot, "."), (wordKind word, word)] := by
  intro rest _
  have spelled : expression (keyed (word ++ "\n")) = "x" ++ ("." ++ (word ++ "\n")) := by
    simp [keyed, expression, segment, isBareName_line name]
  have dot := reads_mark usual (by decide : (".", TokenKind.dot) ∈ ReadsAs.punctuation)
    ((word ++ "\n").toList ++ rest)
  have ends : EndsName (("." ++ (word ++ "\n")).toList ++ rest) := by
    intro c same
    rw [String.toList_append] at same
    cases same
    decide
  rw [spelled, String.toList_append]
  have key := dot.append (reads_line usual name rest)
  rw [← String.toList_append] at key
  exact (reads_identifier usual (by decide) ends).append key

theorem spells_applied_line (usual : tag.IsUsual) (name : Text.isName word.toList) :
    Spells tag (expression (applied (word ++ "\n")))
      [(.leftParen, "("), (.identifier, "x"), (.pipe, "|"), (.identifier, "f"), (.leftParen, "("),
        (wordKind word, word), (.colon, ":"), (.number, "1"), (.rightParen, ")"),
        (.rightParen, ")")] := by
  have argument : Spells tag (word ++ "\n" ++ ": " ++ "1")
      [(wordKind word, word), (.colon, ":"), (.number, "1")] := by
    intro rest ends
    have colon := ReadsAs.symbolBlank usual ("1".toList ++ rest) (":", .colon) (by decide)
    rw [String.toList_append, String.toList_append]
    exact ((reads_line usual name _).append colon).append
      (spells_one usual rest ends)
  have one : literal (.number (.int 1)) = "1" := rfl
  have text : expression (applied (word ++ "\n")) =
      "(" ++ ("x" ++ " " ++ "| " ++ "f" ++ argumentsText [word ++ "\n" ++ ": " ++ "1"]) ++ ")" := by
    rw [← String.toList_inj]
    simp [applied, expression, expressions, namedArguments, argumentName, isBareName_line name, one,
      argumentsText]
  rw [text]
  exact spells_filter usual (spells_identifier usual (by decide : IsIdentifier "x"))
    (by decide : IsIdentifier "f") (.cons argument .nil)

end Canonical

namespace Expr

/-- Compiled alone in a template, the canonical source of the expression leaves the expression. -/
def ReadAgain (name : String) (expr : Expr) : Prop :=
  ∃ template, Template.compile {} Template.defaultDepth name
      (Canonical.output {} (expression expr)) = .ok template ∧
    Node.unplacedBody template.body = [.output expr.unplaced none]

variable {expr other : Expr} {name : String}

theorem readAgain_of_wellFormed (known : expr.WellFormed)
    (shallow : expr.nesting < Template.defaultDepth.toNat) : expr.ReadAgain name := by
  have cut : CutUnless Template.defaultDepth (fun _ => False)
      (expr.nesting < Template.defaultDepth.toNat) := fun deep => absurd shallow deep
  rcases Template.compile_output (fun _ usual => spells_expression usual expr known)
      (expression_accepts known cut) name with
    ⟨read, position, ⟨same, _⟩, compiled⟩ | ⟨_, never, _⟩
  · exact ⟨_, compiled, by simp [Node.unplacedBody, Node.unplaced, same]⟩
  · exact never.elim

/-- What is read as something else is not read again. -/
theorem not_readAgain {inside : List Lexeme}
    (spells : ∀ tag : TagEnd, tag.IsUsual → Spells tag (expression expr) inside)
    (accepts : Accepts (fun _ => True) (Grammar.expression Template.defaultDepth) inside
      EndsExpression fun read => read.unplaced ≠ expr.unplaced) : ¬ expr.ReadAgain name := by
  rintro ⟨template, compiled, same⟩
  rcases Template.compile_output spells accepts name with
    ⟨read, position, other, compiledOther⟩ | ⟨_, _, refused⟩
  · rw [compiled] at compiledOther
    cases compiledOther
    simp [Node.unplacedBody, Node.unplaced, other] at same
  · rw [compiled] at refused
    cases refused

theorem wellFormed_keyed {key : String} (known : IsKeyName key) : (keyed key).WellFormed :=
  ⟨by decide, List.forall_mem_singleton.mpr known⟩

theorem wellFormed_applied {key : String} (known : IsKeyName key) : (applied key).WellFormed :=
  ⟨⟨by decide, List.forall_mem_nil _⟩, by decide, trivial, ⟨known, isLiteral_one, trivial⟩,
    List.nodup_singleton key⟩

theorem shallow_keyed (key : String) : (keyed key).nesting < Template.defaultDepth.toNat := by
  have flat : (keyed key).nesting = 0 := rfl
  rw [flat]
  decide

theorem shallow_applied (key : String) :
    (applied key).nesting < Template.defaultDepth.toNat := by
  have two : (applied key).nesting = 2 := rfl
  rw [two]
  decide

/-- A reserved word is refused in place of a name. -/
theorem not_readAgain_reserved (name : String) {word : String} (isName : Text.isName word.toList)
    (reserved : word ∈ reservedWords) :
    ¬ (keyed (word ++ "\n")).ReadAgain name ∧ ¬ (applied (word ++ "\n")).ReadAgain name := by
  have kinds : ∀ word ∈ reservedWords, wordKind word ∈ reservedKinds := by decide
  have kind := kinds word reserved
  have other : wordKind word ≠ .identifier := fun same => by simp [same, reservedKinds] at kind
  constructor
  · exact not_readAgain (fun _ usual => spells_keyed_line usual isName)
      ((expression_refuses_key _ "x" other).mono (fun _ ends => ends) fun _ => False.elim)
  · exact not_readAgain (fun _ usual => spells_applied_line usual isName)
      ((expression_refuses_argument _ kind "x" "f" word).mono (fun _ ends => ends)
        fun _ => False.elim)

/-- Any other name is read without the line feed. -/
theorem not_readAgain_identifier (name : String) {word : String} (identifier : IsIdentifier word) :
    ¬ (keyed (word ++ "\n")).ReadAgain name ∧ ¬ (applied (word ++ "\n")).ReadAgain name := by
  have known : IsKeyName word := fun _ => identifier.1
  have bare : isBareName word := by
    simp [isBareName, Text.isNameLine, identifier.1, identifier.2]
  have kind := wordKind_of_isIdentifier identifier
  have longer : word ≠ word ++ "\n" := fun same => by
    simpa using congrArg (fun text : String => text.toList.length) same
  have uncut {condition : Prop} : CutUnless Template.defaultDepth (fun _ => True) condition :=
    fun _ _ => trivial
  constructor
  · have read := expression_accepts (wellFormed_keyed known) uncut
    simp only [keyed, lexemes, List.flatMap_cons, segmentLexemes, bare, if_true] at read
    refine not_readAgain (fun _ usual => spells_keyed_line usual identifier.1) ?_
    rw [kind]
    refine read.mono (fun _ ends => ends) fun read same => ?_
    simp [same.1, keyed, unplaced, longer]
  · have read := expression_accepts (wellFormed_applied known) uncut
    simp only [applied, lexemes, namedLexemes, argumentLexeme, bare, if_true] at read
    refine not_readAgain (fun _ usual => spells_applied_line usual identifier.1) ?_
    rw [kind]
    refine read.mono (fun _ ends => ends) fun read same => ?_
    simp [same.1, applied, unplaced, longer]

theorem not_readAgain_line (name : String) {key : String} (line : IsLine key) :
    ¬ (keyed key).ReadAgain name ∧ ¬ (applied key).ReadAgain name := by
  obtain ⟨word, isName, rfl⟩ := line
  by_cases reserved : word ∈ reservedWords
  · exact not_readAgain_reserved name isName reserved
  · exact not_readAgain_identifier name ⟨isName, reserved⟩

/-- Canonical source keeps every key of a path and every name of an argument that is not a name with a
line feed after it, and no other. -/
theorem readAgain_key_iff (key name : String) :
    ((keyed key).ReadAgain name ↔ ¬ IsLine key) ∧ ((applied key).ReadAgain name ↔ ¬ IsLine key) := by
  by_cases line : IsLine key
  · obtain ⟨noKey, noArgument⟩ := not_readAgain_line name line
    simp [noKey, noArgument, line]
  · have known := isKeyName_iff.mpr line
    simp [line, readAgain_of_wellFormed (wellFormed_keyed known) (shallow_keyed key),
      readAgain_of_wellFormed (wellFormed_applied known) (shallow_applied key)]

theorem readAgain_key_line : ¬ ∀ key name : String,
    (keyed key).ReadAgain name ∧ (applied key).ReadAgain name := by
  intro all
  have line : IsLine "a\n" := ⟨"a", by decide, rfl⟩
  exact (not_readAgain_line "" line).1 (all "a\n" "").1

end Expr

end Templating
