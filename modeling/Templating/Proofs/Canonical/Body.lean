import Templating.Proofs.Canonical.Seam
import Templating.Proofs.Canonical.Spelling

/-!
The canonical source of a body reads as the lexemes of its nodes in order. A text never stands
before another, so what follows it is a tag or the end. What it cannot spell, though a source text can
hold it, is a floating value too great to be finite, and a key or argument name with a line feed where
only a name can stand.
-/

namespace Templating

open Lexer

namespace Node

def isText : Node → Bool
  | text .. => true
  | _ => false

/-- One target, or two that differ. -/
def TargetsWellFormed (targets : List String) : Prop :=
  (∀ target ∈ targets, IsIdentifier target) ∧ targets.Nodup ∧
    (targets.length = 1 ∨ targets.length = 2)

def BindingsWellFormed : Option (List (String × Expr)) → Prop
  | none => True
  | some pairs => pairs ≠ [] ∧ ∀ pair ∈ pairs, IsIdentifier pair.1 ∧ pair.2.WellFormed

mutual

/-- A node of the kind that a source text can hold. -/
def WellFormed : Node → Prop
  | text content _ => content ≠ ""
  | output expr _ => expr.WellFormed
  | condition test body branches otherwise _ =>
    test.WellFormed ∧ BodyWellFormed true body ∧ BranchesWellFormed branches ∧
      OptionWellFormed otherwise
  | loop targets iterable body otherwise _ =>
    TargetsWellFormed targets ∧ iterable.WellFormed ∧ BodyWellFormed true body ∧
      OptionWellFormed otherwise
  | binding name value _ => IsIdentifier name ∧ value.WellFormed
  | block name body _ => IsIdentifier name ∧ BodyWellFormed true body
  | parent _ _ => True
  | inclusion _ bindings _ => BindingsWellFormed bindings

/-- Nodes in order, no two texts of which stand side by side. Inside another node no parent is
named. -/
def BodyWellFormed (inside : Bool) : List Node → Prop
  | [] => True
  | node :: rest =>
    node.WellFormed ∧ (inside → node.isParent = false) ∧
      (node.isText → ∀ next ∈ rest.head?, next.isText = false) ∧ BodyWellFormed inside rest

def BranchWellFormed : Branch → Prop
  | .mk test body _ => test.WellFormed ∧ BodyWellFormed true body

def BranchesWellFormed : List Branch → Prop
  | [] => True
  | branch :: rest => BranchWellFormed branch ∧ BranchesWellFormed rest

def OptionWellFormed : Option (List Node) → Prop
  | none => True
  | some body => BodyWellFormed true body

end

end Node

namespace Canonical

def outputLexemes (inside : List Lexeme) : List Lexeme :=
  (.expressionOpen, "\x7b\x7b") :: inside ++ [(.expressionClose, "\x7d\x7d")]

def directiveLexemes (word : String) (inside : List Lexeme) : List Lexeme :=
  (.blockOpen, "\x7b%") :: (.keyword, word) :: inside ++ [(.blockClose, "%\x7d")]

def targetLexemes (targets : List String) : List Lexeme :=
  commaLexemes (targets.map fun target => [(.identifier, target)])

def pairLexemes (pair : String × Expr) : List Lexeme :=
  (.identifier, pair.1) :: (.assign, "=") :: lexemes pair.2

def bindingLexemes : Option (List (String × Expr)) → List Lexeme
  | none => []
  | some pairs => (.keyword, "with") :: commaLexemes (pairs.map pairLexemes)

mutual

def nodeLexemes : Node → List Lexeme
  | .text content _ => runLexemes content.toList
  | .output expr _ => outputLexemes (lexemes expr)
  | .condition test body branches otherwise _ =>
    directiveLexemes "if" (lexemes test) ++ bodyLexemes body ++ branchesLexemes branches ++
      otherwiseLexemes otherwise ++ directiveLexemes "endif" []
  | .loop targets iterable body otherwise _ =>
    directiveLexemes "for" (targetLexemes targets ++ (.keyword, "in") :: lexemes iterable) ++
      bodyLexemes body ++ otherwiseLexemes otherwise ++ directiveLexemes "endfor" []
  | .binding name value _ => directiveLexemes "let" (pairLexemes (name, value))
  | .block name body _ =>
    directiveLexemes "block" [(.identifier, name)] ++ bodyLexemes body ++
      directiveLexemes "endblock" []
  | .parent name _ => directiveLexemes "extends" [(.string, name)]
  | .inclusion name bindings _ =>
    directiveLexemes "include" ((.string, name) :: bindingLexemes bindings)

def bodyLexemes : List Node → List Lexeme
  | [] => []
  | node :: rest => nodeLexemes node ++ bodyLexemes rest

def branchLexemes : Branch → List Lexeme
  | .mk test body _ => directiveLexemes "elif" (lexemes test) ++ bodyLexemes body

def branchesLexemes : List Branch → List Lexeme
  | [] => []
  | branch :: rest => branchLexemes branch ++ branchesLexemes rest

def otherwiseLexemes : Option (List Node) → List Lexeme
  | none => []
  | some body => directiveLexemes "else" [] ++ bodyLexemes body

end

theorem spells_word {tag : TagEnd} (usual : tag.IsUsual) {word : String}
    (name : Text.isName word.toList) : Spells tag word [(wordKind word, word)] := by
  intro rest ends
  have reads := ReadsAs.name usual name ends.name
  rwa [String.ofList_toList] at reads

theorem spells_afterWord {tag : TagEnd} (usual : tag.IsUsual) {word text : String}
    {inside : List Lexeme} (name : Text.isName word.toList) (spells : Spells tag text inside) :
    Spells tag (word ++ " " ++ text) ((wordKind word, word) :: inside) := by
  intro rest ends
  rw [String.toList_append]
  exact (reads_word usual name _).append (spells rest ends)

theorem spells_string {tag : TagEnd} (usual : tag.IsUsual) (text : String) :
    Spells tag (string text) [(.string, text)] :=
  fun _ _ => ReadsAs.string usual text

theorem spells_targets {tag : TagEnd} (usual : tag.IsUsual) {targets : List String}
    (known : ∀ target ∈ targets, IsIdentifier target) :
    Spells tag (", ".intercalate targets) (targetLexemes targets) := by
  apply spells_commas usual
  induction targets with
  | nil => exact .nil
  | cons target rest ih =>
      exact .cons (spells_identifier usual (known target List.mem_cons_self))
        (ih fun other member => known other (List.mem_cons_of_mem _ member))

theorem spells_pair {tag : TagEnd} (usual : tag.IsUsual) {name : String} {value : Expr}
    (identifier : IsIdentifier name) (known : value.WellFormed) :
    Spells tag (name ++ " = " ++ expression value) (pairLexemes (name, value)) := by
  intro rest ends
  rw [String.toList_append, String.toList_append]
  have equals : ReadsAs tag "= ".toList ((expression value).toList ++ rest) [(.assign, "=")] :=
    ReadsAs.symbolBlank usual _ ("=", .assign) (by decide)
  have start := (spells_identifier usual identifier _ (endsLexeme_space _)).append
    (reads_space ("= ".toList ++ ((expression value).toList ++ rest)))
  simpa [pairLexemes] using (start.append equals).append (spells_expression usual value known rest ends)

theorem spells_bindings {tag : TagEnd} (usual : tag.IsUsual) {pairs : List (String × Expr)}
    (known : ∀ pair ∈ pairs, IsIdentifier pair.1 ∧ pair.2.WellFormed) :
    Spells tag (", ".intercalate (bindings pairs)) (commaLexemes (pairs.map pairLexemes)) := by
  apply spells_commas usual
  induction pairs with
  | nil => exact .nil
  | cons pair rest ih =>
      obtain ⟨name, value⟩ := pair
      have first := known (name, value) List.mem_cons_self
      exact .cons (spells_pair usual first.1 first.2)
        (ih fun other member => known other (List.mem_cons_of_mem _ member))

theorem standard_apart : OpenersApart (openersOf {}) where
  nonempty := by decide
  noSlash := by decide
  noBlank := by
    have all : (openersOf {}).all fun opener => opener.all fun c => !Text.isBlank c := by decide
    simpa [List.all_eq_true] using all
  apart := by decide

theorem emits_output {text : String} {inside : List Lexeme}
    (spells : ∀ tag : TagEnd, tag.IsUsual → Spells tag text inside) (rest : List Char) :
    Emits {} (Canonical.output {} text).toList rest (outputLexemes inside) := by
  have spelled : (Canonical.output {} text).toList =
      ['\x7b', '\x7b'] ++ (' ' :: text.toList ++ ' ' :: '\x7d' :: ['\x7d']) := by
    simp [Canonical.output]
  rw [spelled]
  apply Emits.tagOrComment standard_apart (by decide)
  intro mark
  rw [Lexer.tagOrComment, if_neg (by decide), if_pos (by decide)]
  exact tag_reads (by decide) (by decide)
    (fun start => spells _ (.inl rfl) _ (EndsLexeme.cons (by decide))) _ (by simp) mark

theorem emits_tag {text word : String} {inside : List Lexeme}
    (spells : ∀ tag : TagEnd, tag.IsUsual → Spells tag text ((.keyword, word) :: inside))
    (rest : List Char) : Emits {} (Canonical.tag {} text).toList rest (directiveLexemes word inside) := by
  have spelled : (Canonical.tag {} text).toList =
      ['\x7b', '%'] ++ (' ' :: text.toList ++ ' ' :: '%' :: ['\x7d']) := by
    simp [Canonical.tag]
  rw [spelled]
  apply Emits.tagOrComment standard_apart (by decide)
  intro mark
  rw [Lexer.tagOrComment, if_neg (by decide), if_neg (by decide)]
  exact tag_reads (by decide) (by decide)
    (fun start => spells _ (.inr rfl) _ (EndsLexeme.cons (by decide))) _ (by simp) mark

/-- The opener of a tag and a blank come next. -/
def StartsTag (text : List Char) : Prop :=
  ∃ rest, text = ['\x7b', '\x7b'] ++ ' ' :: rest ∨ text = ['\x7b', '%'] ++ ' ' :: rest

theorem startsTag_output (text : String) (rest : List Char) :
    StartsTag ((Canonical.output {} text).toList ++ rest) :=
  ⟨text.toList ++ ' ' :: '\x7d' :: '\x7d' :: rest, .inl (by simp [Canonical.output])⟩

theorem startsTag_tag (text : String) (rest : List Char) :
    StartsTag ((Canonical.tag {} text).toList ++ rest) :=
  ⟨text.toList ++ ' ' :: '%' :: '\x7d' :: rest, .inr (by simp [Canonical.tag])⟩

theorem startsTag_node {node : Node} (tag : node.isText = false) (beforeTag : Bool)
    (rest : List Char) : StartsTag ((Canonical.node {} beforeTag node).toList ++ rest) := by
  cases node with
  | text content position => cases tag
  | output expr position => exact startsTag_output _ rest
  | condition test body branches otherwise position =>
      simpa [Canonical.node] using startsTag_tag ("if " ++ expression test) _
  | loop targets iterable body otherwise position =>
      simpa [Canonical.node, String.append_assoc] using
        startsTag_tag ("for " ++ ", ".intercalate targets ++ " in " ++ expression iterable) _
  | binding name value position => exact startsTag_tag _ rest
  | block name body position =>
      simpa [Canonical.node] using startsTag_tag ("block " ++ name) _
  | parent name position => exact startsTag_tag _ rest
  | inclusion name bindings position =>
      cases bindings with
      | none => exact startsTag_tag _ rest
      | some pairs => exact startsTag_tag _ rest

theorem emits_text {content : String} {beforeTag : Bool} {rest : List Char}
    (next : if beforeTag then StartsTag rest else rest = []) :
    Emits {} (escapeText {} content beforeTag).toList rest (runLexemes content.toList) := by
  cases beforeTag with
  | false =>
      subst next
      exact Emits.escapeText_end standard_apart content
  | true =>
      have closes : ({} : Delimiters).commentClose.toList = ['#', '\x7d'] := rfl
      obtain ⟨more, rfl | rfl⟩ := next
      · exact Emits.escapeText_tag standard_apart closes (by decide) (.inl rfl) content
      · exact Emits.escapeText_tag standard_apart closes (by decide) (.inr rfl) content

theorem startsTag_further (branches : List Branch) {rest : List Char} (next : StartsTag rest) :
    StartsTag ((further {} branches).toList ++ rest) := by
  cases branches with
  | nil => exact next
  | cons branch others =>
      obtain ⟨test, body, position⟩ := branch
      simpa [further, Canonical.branch] using startsTag_tag ("elif " ++ expression test) _

theorem startsTag_rest (otherwise : Option (List Node)) {rest : List Char}
    (next : StartsTag rest) : StartsTag ((Canonical.rest {} otherwise).toList ++ rest) := by
  cases otherwise with
  | none => exact next
  | some body => simpa [Canonical.rest] using startsTag_tag "else" _

theorem startsTag_body {first : Node} {others : List Node} (closed : Bool)
    (separate : first.isText → ∀ next ∈ others.head?, next.isText = false) {rest : List Char}
    (next : if closed then StartsTag rest else rest = []) (text : first.isText) :
    if closed || !others.isEmpty then StartsTag ((nodes {} closed others).toList ++ rest)
    else (nodes {} closed others).toList ++ rest = [] := by
  cases others with
  | nil => cases closed <;> simpa [nodes] using next
  | cons second others =>
      have tag := startsTag_node (separate text second rfl) (closed || !others.isEmpty)
        ((nodes {} closed others).toList ++ rest)
      simpa [nodes] using tag

/-- A directive of one word. -/
theorem emits_word (word : String) (name : Text.isName word.toList)
    (keyword : wordKind word = .keyword) (rest : List Char) :
    Emits {} (Canonical.tag {} word).toList rest (directiveLexemes word []) := by
  apply emits_tag
  intro tag usual
  have spells := spells_word usual name
  rwa [keyword] at spells

/-- A directive of a word and what stands behind it. -/
theorem emits_directive (word : String) (name : Text.isName word.toList)
    (keyword : wordKind word = .keyword) {text : String} {inside : List Lexeme}
    (spells : ∀ tag : TagEnd, tag.IsUsual → Spells tag text inside) (rest : List Char) :
    Emits {} (Canonical.tag {} (word ++ " " ++ text)).toList rest
      (directiveLexemes word inside) := by
  apply emits_tag
  intro tag usual
  have afterWord := spells_afterWord usual name (spells tag usual)
  rwa [keyword] at afterWord

theorem spells_loopHead {tag : TagEnd} (usual : tag.IsUsual) {targets : List String}
    {iterable : Expr} (known : ∀ target ∈ targets, IsIdentifier target)
    (readable : iterable.WellFormed) :
    Spells tag (", ".intercalate targets ++ " in " ++ expression iterable)
      (targetLexemes targets ++ (.keyword, "in") :: lexemes iterable) := by
  intro rest ends
  have word : Spells tag ("in" ++ " " ++ expression iterable)
      ((.keyword, "in") :: lexemes iterable) :=
    spells_afterWord usual (by decide) (spells_expression usual iterable readable)
  have start := (spells_targets usual known _ (endsLexeme_space _)).append
    (reads_space (("in" ++ " " ++ expression iterable).toList ++ rest))
  simpa using start.append (word rest ends)

theorem spells_inclusion {tag : TagEnd} (usual : tag.IsUsual) (name : String)
    {pairs : List (String × Expr)}
    (known : ∀ pair ∈ pairs, IsIdentifier pair.1 ∧ pair.2.WellFormed) :
    Spells tag (string name ++ " with " ++ ", ".intercalate (bindings pairs))
      ((.string, name) :: bindingLexemes (some pairs)) := by
  intro rest ends
  have word : Spells tag ("with" ++ " " ++ ", ".intercalate (bindings pairs))
      (bindingLexemes (some pairs)) :=
    spells_afterWord usual (by decide) (spells_bindings usual known)
  have start := (spells_string usual name _ (endsLexeme_space _)).append
    (reads_space (("with" ++ " " ++ ", ".intercalate (bindings pairs)).toList ++ rest))
  simpa using start.append (word rest ends)

mutual

/-- The source of a node reads as the lexemes of the node. -/
theorem emits_node : ∀ node : Node, node.WellFormed → ∀ (beforeTag : Bool) (rest : List Char),
    (node.isText → if beforeTag then StartsTag rest else rest = []) →
      Emits {} (Canonical.node {} beforeTag node).toList rest (nodeLexemes node)
  | .text content _, _, beforeTag, rest, next => emits_text (next rfl)
  | .output expr _, known, _, rest, _ =>
    emits_output (fun _ usual => spells_expression usual expr known) rest
  | .condition test body branches otherwise _, known, _, rest, _ => by
    have closing := emits_word "endif" (by decide) rfl rest
    have afterRest := startsTag_tag "endif" rest
    have last := emits_rest otherwise known.2.2.2 _ afterRest
    have afterFurther := startsTag_rest otherwise afterRest
    have more := emits_further branches known.2.2.1 _ afterFurther
    have afterBody := startsTag_further branches afterFurther
    have inside := emits_body true body known.2.1 true _ afterBody
    have opening := emits_directive "if" (by decide) rfl
      (fun _ usual => spells_expression usual test known.1)
    simpa [Canonical.node, nodeLexemes] using
      ((((opening _).append inside).append more).append last).append closing
  | .loop targets iterable body otherwise _, known, _, rest, _ => by
    have closing := emits_word "endfor" (by decide) rfl rest
    have afterRest := startsTag_tag "endfor" rest
    have last := emits_rest otherwise known.2.2.2 _ afterRest
    have afterBody := startsTag_rest otherwise afterRest
    have inside := emits_body true body known.2.2.1 true _ afterBody
    have opening := emits_directive "for" (by decide) rfl
      (fun _ usual => spells_loopHead usual known.1.1 known.2.1)
    simpa [Canonical.node, nodeLexemes, String.append_assoc] using
      (((opening _).append inside).append last).append closing
  | .binding name value _, known, _, rest, _ => by
    have whole := emits_directive "let" (by decide) rfl
      (fun _ usual => spells_pair usual known.1 known.2) rest
    simpa [Canonical.node, nodeLexemes, String.append_assoc] using whole
  | .block name body _, known, _, rest, _ => by
    have closing := emits_word "endblock" (by decide) rfl rest
    have inside := emits_body true body known.2 true _ (startsTag_tag "endblock" rest)
    have opening := emits_directive "block" (by decide) rfl
      (fun _ usual => spells_identifier usual known.1)
    simpa [Canonical.node, nodeLexemes] using (opening _).append (inside.append closing)
  | .parent name _, _, _, rest, _ =>
    emits_directive "extends" (by decide) rfl (fun _ usual => spells_string usual name) rest
  | .inclusion name none _, _, _, rest, _ =>
    emits_directive "include" (by decide) rfl (fun _ usual => spells_string usual name) rest
  | .inclusion name (some pairs) _, known, _, rest, _ => by
    have whole := emits_directive "include" (by decide) rfl
      (fun _ usual => spells_inclusion usual name known.2) rest
    simpa [Canonical.node, nodeLexemes, String.append_assoc] using whole

theorem emits_body (inside : Bool) : ∀ body : List Node, Node.BodyWellFormed inside body →
    ∀ (closed : Bool) (rest : List Char), (if closed then StartsTag rest else rest = []) →
      Emits {} (nodes {} closed body).toList rest (bodyLexemes body)
  | [], _, _, _, _ => Emits.nil
  | first :: others, known, closed, rest, next => by
    have tail := emits_body inside others known.2.2.2 closed rest next
    have head := emits_node first known.1 (closed || !others.isEmpty)
      ((nodes {} closed others).toList ++ rest) (startsTag_body closed known.2.2.1 next)
    rw [nodes, String.toList_append]
    exact head.append tail

theorem emits_further : ∀ branches : List Branch, Node.BranchesWellFormed branches →
    ∀ rest : List Char, StartsTag rest →
      Emits {} (further {} branches).toList rest (branchesLexemes branches)
  | [], _, _, _ => Emits.nil
  | .mk test body _ :: others, known, rest, next => by
    have more := emits_further others known.2 rest next
    have inside := emits_body true body known.1.2 true _ (startsTag_further others next)
    have opening := emits_directive "elif" (by decide) rfl
      (fun _ usual => spells_expression usual test known.1.1)
    simpa [further, Canonical.branch, branchesLexemes, branchLexemes] using
      (opening _).append (inside.append more)

theorem emits_rest : ∀ otherwise : Option (List Node), Node.OptionWellFormed otherwise →
    ∀ rest : List Char, StartsTag rest →
      Emits {} (Canonical.rest {} otherwise).toList rest (otherwiseLexemes otherwise)
  | none, _, _, _ => Emits.nil
  | some body, known, rest, next => by
    have inside := emits_body true body known true rest next
    simpa [Canonical.rest, otherwiseLexemes] using
      (emits_word "else" (by decide) rfl _).append inside

end

/-- A text that is read to the end as these lexemes has tokens with them. -/
theorem tokens_emitted {text : String} {lexemes : List Lexeme}
    (emits : Emits {} text.toList [] lexemes) :
    ∃ tokens mark, tokens.map Token.lexeme = lexemes ∧
      Lexer.tokens {} text = .ok (tokens ++ [⟨.endOfInput, "", mark⟩]) :=
  Emits.scan_eq emits standard_apart {}

end Canonical

def Value.Spellable : Value → Prop
  | .number (.float value) => value.isFinite
  | _ => True

def Segment.Spellable : Segment → Prop
  | .key name => IsKeyName name
  | .index _ => True

namespace Expr

mutual

/-- An expression without values and names that canonical source cannot spell. -/
def Spellable : Expr → Prop
  | literal value _ => value.Spellable
  | reference _ path _ => ∀ segment ∈ path, segment.Spellable
  | list items _ => AllSpellable items
  | binary _ left right _ => left.Spellable ∧ right.Spellable
  | unary _ operand _ => operand.Spellable
  | filter base _ arguments named _ =>
    base.Spellable ∧ AllSpellable arguments ∧ NamedSpellable named

def AllSpellable : List Expr → Prop
  | [] => True
  | item :: items => item.Spellable ∧ AllSpellable items

def NamedSpellable : List (String × Expr) → Prop
  | [] => True
  | (name, value) :: rest => IsKeyName name ∧ value.Spellable ∧ NamedSpellable rest

end

end Expr

namespace Node

mutual

/-- A node all of whose expressions canonical source can spell. -/
def Spellable : Node → Prop
  | text _ _ | parent _ _ => True
  | output expr _ => expr.Spellable
  | condition test body branches otherwise _ =>
    test.Spellable ∧ BodySpellable body ∧ BranchesSpellable branches ∧ OptionSpellable otherwise
  | loop _ iterable body otherwise _ =>
    iterable.Spellable ∧ BodySpellable body ∧ OptionSpellable otherwise
  | binding _ value _ => value.Spellable
  | block _ body _ => BodySpellable body
  | inclusion _ bindings _ => ∀ pair ∈ bindings.getD [], pair.2.Spellable

def BodySpellable : List Node → Prop
  | [] => True
  | node :: rest => node.Spellable ∧ BodySpellable rest

def BranchSpellable : Branch → Prop
  | .mk test body _ => test.Spellable ∧ BodySpellable body

def BranchesSpellable : List Branch → Prop
  | [] => True
  | branch :: rest => BranchSpellable branch ∧ BranchesSpellable rest

def OptionSpellable : Option (List Node) → Prop
  | none => True
  | some body => BodySpellable body

end

end Node

end Templating
