import Templating.Proofs.Canonical.Lexemes

/-!
The canonical source of an expression reads as its lexemes, whatever comes behind it that ends a
name and a number.
-/

namespace Templating.Canonical

open Lexer

/-- What stands behind an expression: a blank, a comma or a closing bracket. -/
def EndsLexeme (rest : List Char) : Prop :=
  ∀ c ∈ rest.head?, c ∈ [' ', ',', ')', ']']

theorem EndsLexeme.number {rest : List Char} (ends : EndsLexeme rest) : EndsNumber rest := by
  intro c first
  have known : ∀ c ∈ [' ', ',', ')', ']'],
      Text.isDecimal c = false ∧ c ∉ ['.', 'e', 'E', '+', '-'] :=
    Text.forall_mem_of_all (by decide)
  exact known c (ends c first)

theorem EndsLexeme.name {rest : List Char} (ends : EndsLexeme rest) :
    ∀ c ∈ rest.head?, Text.isNamePart c = false := by
  intro c first
  have known : ∀ c ∈ [' ', ',', ')', ']'], Text.isNamePart c = false :=
    Text.forall_mem_of_all (by decide)
  exact known c (ends c first)

theorem EndsLexeme.cons {c : Char} {rest : List Char} (known : c ∈ [' ', ',', ')', ']']) :
    EndsLexeme (c :: rest) := by
  intro first same
  cases same
  exact known

/-- The text reads as these lexemes before everything that can stand behind an expression. -/
def Spells (tag : TagEnd) (text : String) (lexemes : List Lexeme) : Prop :=
  ∀ rest, EndsLexeme rest → ReadsAs tag text.toList rest lexemes

variable {tag : TagEnd}

theorem wordKind_of_isIdentifier {name : String} (identifier : IsIdentifier name) :
    wordKind name = .identifier := by
  have unreserved := identifier.2
  simp only [reservedWords, List.mem_append, not_or] at unreserved
  simp [wordKind, unreserved]

theorem reads_identifier (usual : tag.IsUsual) {name : String} (identifier : IsIdentifier name)
    {rest : List Char} (ends : ∀ c ∈ rest.head?, Text.isNamePart c = false) :
    ReadsAs tag name.toList rest [(.identifier, name)] := by
  have reads := ReadsAs.name usual identifier.1 ends
  rwa [String.ofList_toList, wordKind_of_isIdentifier identifier] at reads

theorem spells_identifier (usual : tag.IsUsual) {name : String} (identifier : IsIdentifier name) :
    Spells tag name [(.identifier, name)] :=
  fun _ ends => reads_identifier usual identifier ends.name

/-- A reserved word or name before a blank. -/
theorem reads_word (usual : tag.IsUsual) {word : String} (name : Text.isName word.toList)
    (rest : List Char) : ReadsAs tag (word ++ " ").toList rest [(wordKind word, word)] := by
  have ends : EndsLexeme (' ' :: rest) := EndsLexeme.cons (by decide)
  have reads := ReadsAs.name usual name ends.name
  rw [String.ofList_toList] at reads
  rw [String.toList_append]
  exact reads.append ReadsAs.blank

theorem reads_digits (usual : tag.IsUsual) {digits rest : List Char} (some : digits ≠ [])
    (all : ∀ c ∈ digits, c.isDigit) (ends : EndsNumber rest) :
    ReadsAs tag digits rest [(.number, String.ofList digits)] := by
  obtain ⟨c, others, rfl⟩ := List.exists_cons_of_ne_nil some
  apply ReadsAs.number usual (all c List.mem_cons_self)
  rw [numberLexeme_append _ ends, numberLexeme_digits all]

theorem reads_whole (usual : tag.IsUsual) {value : Int} (whole : IsWhole value)
    {rest : List Char} (ends : EndsNumber rest) :
    ReadsAs tag (toString value).toList rest [(.number, toString value)] := by
  obtain ⟨size, rfl, text⟩ := Numeral.exists_toDigits whole.1
  rw [text, String.toList_ofList]
  exact reads_digits usual Nat.toDigits_ne_nil (fun c => Numeral.isDigit_of_mem_toDigits) ends

theorem reads_float (usual : tag.IsUsual) {value : Binary64} (rereads : value.Rereads)
    {rest : List Char} (ends : EndsNumber rest) :
    ReadsAs tag (value.text .plain).toList rest [(.number, value.text .plain)] := by
  obtain ⟨c, others, spelled, digit⟩ := rereads.starts
  have lexeme := rereads.lexeme
  have text : value.text .plain = String.ofList (c :: others) := by
    rw [← spelled, String.ofList_toList]
  rw [spelled] at lexeme ⊢
  rw [text]
  apply ReadsAs.number usual digit
  rw [numberLexeme_append _ ends, lexeme]

theorem spells_literal (usual : tag.IsUsual) {value : Value} (literal : value.IsLiteral) :
    Spells tag (Canonical.literal value) [literalLexeme value] := by
  intro rest ends
  have word : ∀ {text : String} {kind : TokenKind}, Text.isName text.toList →
      wordKind text = kind → ReadsAs tag text.toList rest [(kind, text)] := by
    intro text kind name same
    have reads := ReadsAs.name usual name ends.name
    rwa [String.ofList_toList, same] at reads
  cases value with
  | null => exact word (by decide) rfl
  | bool value => cases value <;> exact word (by decide) rfl
  | number value =>
      cases value with
      | int value => exact reads_whole usual literal ends.number
      | float value => exact reads_float usual literal ends.number
  | string text safe => exact ReadsAs.string usual text
  | sequence kind items => cases literal
  | mapping entries => cases literal
  | host object => cases literal

theorem reads_bracketed (usual : tag.IsUsual) {text : String} {lexeme : Lexeme}
    {rest : List Char} (reads : ReadsAs tag text.toList (']' :: rest) [lexeme]) :
    ReadsAs tag ("[" ++ text ++ "]").toList rest
      [(.leftBracket, "["), lexeme, (.rightBracket, "]")] := by
  have opens := ReadsAs.mark usual (text.toList ++ "]".toList ++ rest) ("[", .leftBracket)
    (by decide)
  have closes := ReadsAs.mark usual rest ("]", .rightBracket) (by decide)
  rw [String.toList_append, String.toList_append]
  exact (opens.append (ReadsAs.append reads closes : ReadsAs tag (text.toList ++ "]".toList) rest _))

/-- No name goes on into the text. -/
def EndsName (rest : List Char) : Prop :=
  ∀ c ∈ rest.head?, Text.isNamePart c = false

theorem isIdentifier_of_isBareName {name : String} (key : IsKeyName name)
    (bare : isBareName name) : IsIdentifier name := by
  simp only [isBareName, Bool.and_eq_true, Bool.not_eq_true', List.contains_eq_mem,
    decide_eq_false_iff_not] at bare
  exact ⟨key bare.1, bare.2⟩

theorem reads_segment (usual : tag.IsUsual) {segment : Segment} (known : segment.WellFormed)
    {rest : List Char} (ends : EndsName rest) :
    ReadsAs tag (Canonical.segment segment).toList rest (segmentLexemes segment) := by
  have closing : EndsLexeme (']' :: rest) := EndsLexeme.cons (by decide)
  cases segment with
  | index position => exact reads_bracketed usual (reads_whole usual known closing.number)
  | key name =>
      simp only [Canonical.segment, segmentLexemes]
      split
      case isTrue bare =>
        have dot := ReadsAs.mark usual (name.toList ++ rest) (".", .dot) (by decide)
        rw [String.toList_append]
        exact dot.append (reads_identifier usual (isIdentifier_of_isBareName known bare) ends)
      case isFalse quoted => exact reads_bracketed usual (ReadsAs.string usual name)

theorem endsName_path (path : List Segment) {rest : List Char} (ends : EndsName rest) :
    EndsName ((String.join (path.map Canonical.segment)).toList ++ rest) := by
  cases path with
  | nil => simpa using ends
  | cons segment path =>
      have starts : ∃ c more, (Canonical.segment segment).toList = c :: more ∧ c ∈ ['.', '['] := by
        cases segment with
        | index position => exact ⟨'[', _, by simp [Canonical.segment]; rfl, by decide⟩
        | key name =>
            simp only [Canonical.segment]
            split
            · exact ⟨'.', _, by simp; rfl, by decide⟩
            · exact ⟨'[', _, by simp; rfl, by decide⟩
      obtain ⟨c, more, spelled, known⟩ := starts
      have plain : ∀ c ∈ ['.', '['], Text.isNamePart c = false :=
        Text.forall_mem_of_all (by decide)
      intro first same
      simp only [List.map_cons, String.join_cons, String.toList_append, spelled, List.cons_append,
        List.head?_cons, Option.mem_def, Option.some.injEq] at same
      exact same ▸ plain c known

theorem reads_path (usual : tag.IsUsual) {path : List Segment}
    (known : ∀ segment ∈ path, segment.WellFormed) {rest : List Char} (ends : EndsName rest) :
    ReadsAs tag (String.join (path.map Canonical.segment)).toList rest
      (path.flatMap segmentLexemes) := by
  induction path with
  | nil => simpa using ReadsAs.nil
  | cons segment path ih =>
      have first := reads_segment usual (known segment List.mem_cons_self)
        (endsName_path path ends)
      have others := ih fun other member => known other (List.mem_cons_of_mem _ member)
      simpa using first.append others

theorem spells_commas (usual : tag.IsUsual) {texts : List String} {parts : List (List Lexeme)}
    (each : List.Forall₂ (Spells tag) texts parts) :
    Spells tag (", ".intercalate texts) (commaLexemes parts) := by
  induction each with
  | nil => exact fun rest _ => by simpa [commaLexemes] using ReadsAs.nil
  | @cons text part texts parts first others ih =>
      cases others with
      | nil => simpa [commaLexemes] using first
      | @cons second next texts parts _ _ =>
          intro rest ends
          rw [String.intercalate_cons_cons, String.toList_append, String.toList_append]
          have comma := ReadsAs.symbolBlank usual
            ((", ".intercalate (second :: texts)).toList ++ rest) (",", .comma) (by decide)
          have spelled := (first _ (EndsLexeme.cons (by decide))).append
            ((comma.append (ih rest ends)))
          simpa [commaLexemes] using spelled

theorem reads_operator (usual : tag.IsUsual) (rest : List Char) :
    ∀ operator ∈ BinaryOperator.known,
      ReadsAs tag (operator.symbol ++ " ").toList rest [operatorLexeme operator] := by
  have symbol : ∀ entry ∈ symbols,
      ReadsAs tag (entry.1 ++ " ").toList rest [(entry.2, entry.1)] := by
    intro entry known
    rw [String.toList_append]
    exact ReadsAs.symbolBlank usual _ entry known
  simp only [BinaryOperator.known, List.forall_mem_cons]
  and_intros
  · exact reads_word usual (by decide) rest
  · exact reads_word usual (by decide) rest
  · exact symbol ("==", .operator) (by decide)
  · exact symbol ("!=", .operator) (by decide)
  · exact reads_word usual (by decide) rest
  · exact symbol ("<", .operator) (by decide)
  · exact symbol ("<=", .operator) (by decide)
  · exact symbol (">", .operator) (by decide)
  · exact symbol (">=", .operator) (by decide)
  · exact symbol ("+", .operator) (by decide)
  · exact symbol ("-", .operator) (by decide)
  · exact symbol ("*", .operator) (by decide)
  · exact symbol ("/", .operator) (by decide)
  · exact symbol ("%", .operator) (by decide)
  · simp

/-- A minus sign before the text does not close the tag. -/
def Opens (text : String) : Prop :=
  ∃ c rest, text.toList = c :: rest ∧ c ≠ '\x7d' ∧ c ≠ '%'

theorem opens_of_isDigit {text : String} {c : Char} {rest : List Char}
    (spelled : text.toList = c :: rest) (digit : c.isDigit) : Opens text := by
  refine ⟨c, rest, spelled, ?_, ?_⟩ <;> (rintro rfl; cases digit)

theorem opens_literal {value : Value} (literal : value.IsLiteral) :
    Opens (Canonical.literal value) := by
  cases value with
  | null => exact ⟨_, _, rfl, by decide, by decide⟩
  | bool value => cases value <;> exact ⟨_, _, rfl, by decide, by decide⟩
  | number value =>
      cases value with
      | int value =>
          obtain ⟨size, rfl, text⟩ := Numeral.exists_toDigits literal.1
          cases digits : Nat.toDigits 10 size with
          | nil => exact absurd digits Nat.toDigits_ne_nil
          | cons c rest =>
              have spelled : (Canonical.literal (.number (.int size))).toList = c :: rest := by
                rw [← digits, Canonical.literal, Number.text, text, String.toList_ofList]
              exact opens_of_isDigit spelled
                (Numeral.isDigit_of_mem_toDigits (digits ▸ List.mem_cons_self))
      | float value =>
          obtain ⟨c, rest, spelled, digit⟩ := Binary64.Rereads.starts literal
          exact opens_of_isDigit spelled digit
  | string text safe => exact ⟨'"', _, by simp [Canonical.literal, string]; rfl, by decide, by decide⟩
  | sequence kind items => cases literal
  | mapping entries => cases literal
  | host object => cases literal

theorem opens_expression {expr : Expr} (known : expr.WellFormed) :
    Opens (Canonical.expression expr) := by
  cases expr with
  | literal value position => exact opens_literal known
  | reference name path position =>
      obtain ⟨identifier, _⟩ := known.1
      cases spelled : name.toList with
      | nil =>
          rw [spelled] at identifier
          cases identifier
      | cons c rest =>
          rw [spelled, Text.isName, Bool.and_eq_true] at identifier
          refine ⟨c, _, by rw [Canonical.expression, String.toList_append, spelled]; rfl, ?_, ?_⟩ <;>
            (rintro rfl; cases identifier.1)
  | list items position => exact ⟨'[', _, by simp [Canonical.expression]; rfl, by decide, by decide⟩
  | binary operator left right position =>
      exact ⟨'(', _, by simp [Canonical.expression]; rfl, by decide, by decide⟩
  | unary operator operand position =>
      exact ⟨'(', _, by simp [Canonical.expression]; rfl, by decide, by decide⟩
  | filter base name arguments named position =>
      exact ⟨'(', _, by simp [Canonical.expression]; rfl, by decide, by decide⟩

theorem reads_sign (usual : tag.IsUsual) {operator : UnaryOperator}
    (known : operator = .not ∨ operator = .negate) {text : String} (opens : Opens text)
    (rest : List Char) :
    ReadsAs tag (unarySymbol operator).toList (text.toList ++ rest) [signLexeme operator] := by
  rcases known with rfl | rfl
  · have reads : ReadsAs tag ("not" ++ " ").toList (text.toList ++ rest)
        [(wordKind "not", "not")] := reads_word usual (by decide) _
    exact reads
  · obtain ⟨c, more, spelled, brace, percent⟩ := opens
    apply ReadsAs.sign
    rw [spelled]
    have notBrace := beq_false_of_ne (Ne.symm brace)
    have notPercent := beq_false_of_ne (Ne.symm percent)
    rcases usual with close | close <;>
      simp [StaysInside, close, List.isPrefixOf, notBrace, notPercent]

theorem reads_mark (usual : tag.IsUsual) {text : String} {kind : TokenKind}
    (known : (text, kind) ∈ ReadsAs.punctuation) (rest : List Char) :
    ReadsAs tag text.toList rest [(kind, text)] :=
  ReadsAs.mark usual rest (text, kind) known

theorem reads_space (rest : List Char) : ReadsAs tag " ".toList rest [] :=
  ReadsAs.blank

theorem spells_parentheses (usual : tag.IsUsual) {text : String} {inside : List Lexeme}
    (spells : Spells tag text inside) :
    Spells tag ("(" ++ text ++ ")") ((.leftParen, "(") :: inside ++ [(.rightParen, ")")]) := by
  intro rest _
  rw [String.toList_append, String.toList_append]
  have closing : EndsLexeme (")".toList ++ rest) := EndsLexeme.cons (by decide)
  exact ((reads_mark usual (by decide) (text.toList ++ (")".toList ++ rest))).append
    (spells _ closing)).append (reads_mark usual (by decide) rest)

theorem spells_brackets (usual : tag.IsUsual) {text : String} {inside : List Lexeme}
    (spells : Spells tag text inside) :
    Spells tag ("[" ++ text ++ "]") ((.leftBracket, "[") :: inside ++ [(.rightBracket, "]")]) := by
  intro rest _
  rw [String.toList_append, String.toList_append]
  have closing : EndsLexeme ("]".toList ++ rest) := EndsLexeme.cons (by decide)
  exact ((reads_mark usual (by decide) (text.toList ++ ("]".toList ++ rest))).append
    (spells _ closing)).append (reads_mark usual (by decide) rest)

theorem endsLexeme_space (rest : List Char) : EndsLexeme (" ".toList ++ rest) :=
  EndsLexeme.cons (by decide)

theorem reads_argumentName (usual : tag.IsUsual) {name : String} (key : IsKeyName name)
    (rest : List Char) :
    ReadsAs tag (argumentName name).toList (':' :: rest) [argumentLexeme name] := by
  unfold argumentName argumentLexeme
  split
  case isTrue bare =>
    apply reads_identifier usual (isIdentifier_of_isBareName key bare)
    intro c same
    cases same
    decide
  case isFalse quoted => exact ReadsAs.string usual name

theorem spells_named (usual : tag.IsUsual) {name value : String} {inside : List Lexeme}
    (key : IsKeyName name) (spells : Spells tag value inside) :
    Spells tag (argumentName name ++ ": " ++ value)
      (argumentLexeme name :: (.colon, ":") :: inside) := by
  intro rest ends
  rw [String.toList_append, String.toList_append]
  have colon := ReadsAs.symbolBlank usual (value.toList ++ rest) (":", .colon) (by decide)
  exact ((reads_argumentName usual key _).append colon).append (spells rest ends)

/-- The arguments of a filter as its source writes them. -/
def argumentsText (texts : List String) : String :=
  if texts.isEmpty then "" else "(" ++ ", ".intercalate texts ++ ")"

theorem spells_arguments (usual : tag.IsUsual) {texts : List String} {parts : List (List Lexeme)}
    (each : List.Forall₂ (Spells tag) texts parts) :
    Spells tag (argumentsText texts) (argumentsLexemes parts) := by
  cases each with
  | nil => exact fun rest _ => ReadsAs.nil
  | cons first others =>
      exact spells_parentheses usual (spells_commas usual (.cons first others))

theorem endsName_arguments (texts : List String) {rest : List Char} (ends : EndsLexeme rest) :
    EndsName ((argumentsText texts).toList ++ rest) := by
  unfold argumentsText
  split
  · exact ends.name
  · intro c same
    rw [String.toList_append, String.toList_append] at same
    cases same
    decide

theorem spells_filter (usual : tag.IsUsual) {base name : String} {texts : List String}
    {inside : List Lexeme} {parts : List (List Lexeme)} (spells : Spells tag base inside)
    (identifier : IsIdentifier name) (each : List.Forall₂ (Spells tag) texts parts) :
    Spells tag ("(" ++ (base ++ " " ++ "| " ++ name ++ argumentsText texts) ++ ")")
      ((.leftParen, "(") :: (inside ++ [(.pipe, "|"), (.identifier, name)] ++
        argumentsLexemes parts) ++ [(.rightParen, ")")]) := by
  apply spells_parentheses usual
  intro rest ends
  rw [String.toList_append, String.toList_append, String.toList_append, String.toList_append]
  have pipe : ReadsAs tag "| ".toList (name.toList ++ ((argumentsText texts).toList ++ rest))
      [(.pipe, "|")] := ReadsAs.symbolBlank usual _ ("|", .pipe) (by decide)
  have applied := reads_identifier usual identifier (endsName_arguments texts ends)
  have start := (spells _ (endsLexeme_space _)).append
    (reads_space ("| ".toList ++ (name.toList ++ ((argumentsText texts).toList ++ rest))))
  have toName := (start.append pipe).append applied
  simpa using toName.append (spells_arguments usual each rest ends)

mutual

/-- The source of an expression reads as the lexemes of the expression. -/
theorem spells_expression (usual : tag.IsUsual) :
    ∀ expr : Expr, expr.WellFormed → Spells tag (expression expr) (lexemes expr)
  | .literal value _, known => spells_literal usual known
  | .reference name path _, known => by
    intro rest ends
    have starts := reads_identifier usual known.1 (endsName_path path ends.name)
    rw [expression, String.toList_append]
    exact starts.append (reads_path usual known.2 ends.name)
  | .list items _, known =>
    spells_brackets usual (spells_commas usual (spells_expressions usual items known))
  | .binary operator left right _, known => by
    have inside : Spells tag
        (expression left ++ " " ++ (operator.symbol ++ " ") ++ expression right)
        (lexemes left ++ [] ++ [operatorLexeme operator] ++ lexemes right) := by
      intro rest ends
      rw [String.toList_append, String.toList_append, String.toList_append]
      exact (((spells_expression usual left known.2.1 _ (endsLexeme_space _)).append
        (reads_space _)).append (reads_operator usual _ operator known.1)).append
        (spells_expression usual right known.2.2 rest ends)
    simpa [expression, lexemes, String.append_assoc] using spells_parentheses usual inside
  | .unary operator operand _, known => by
    have inside : Spells tag (unarySymbol operator ++ expression operand)
        ([signLexeme operator] ++ lexemes operand) := by
      intro rest ends
      rw [String.toList_append]
      exact (reads_sign usual known.1 (opens_expression known.2) rest).append
        (spells_expression usual operand known.2 rest ends)
    simpa [expression, lexemes, String.append_assoc] using spells_parentheses usual inside
  | .filter base name arguments named _, known => by
    have all := List.rel_append (spells_expressions usual arguments known.2.2.1)
      (spells_namedArguments usual named known.2.2.2.1)
    have spelled := spells_filter usual (spells_expression usual base known.1) known.2.1 all
    simpa [expression, lexemes, argumentsText, String.append_assoc] using spelled

theorem spells_expressions (usual : tag.IsUsual) :
    ∀ items : List Expr, Expr.AllWellFormed items →
      List.Forall₂ (Spells tag) (expressions items) (itemLexemes items)
  | [], _ => .nil
  | item :: items, known =>
    .cons (spells_expression usual item known.1) (spells_expressions usual items known.2)

theorem spells_namedArguments (usual : tag.IsUsual) :
    ∀ named : List (String × Expr), Expr.NamedWellFormed named →
      List.Forall₂ (Spells tag) (namedArguments named) (namedLexemes named)
  | [], _ => .nil
  | (_, value) :: rest, known =>
    .cons (spells_named usual known.1 (spells_expression usual value known.2.1))
      (spells_namedArguments usual rest known.2.2)

end

end Templating.Canonical
