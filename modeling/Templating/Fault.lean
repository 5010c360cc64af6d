import Templating.Diagnostic
import Templating.Text.Escape
import Templating.Text.Lines

/-!
Errors of templates: their causes, how each is worded, and where in which source line it happened.
-/

namespace Templating

inductive LexicalCause where
  | unterminatedTag (close : String)
  | unterminatedComment
  | invalidEscape (escaped : Char)
  | unterminatedString
  | unexpectedCharacter (found : Char)
deriving DecidableEq, Repr

namespace LexicalCause

def kind : LexicalCause → String
  | unterminatedTag _ | unterminatedComment => "UnterminatedTag"
  | invalidEscape _ => "InvalidEscape"
  | unterminatedString => "UnterminatedString"
  | unexpectedCharacter _ => "UnexpectedCharacter"

def message : LexicalCause → String
  | unterminatedTag close => "Unterminated tag, expected '" ++ close ++ "'"
  | unterminatedComment => "Unterminated comment"
  | invalidEscape escaped => "Invalid escape sequence: '\\" ++ escaped.toString ++ "'"
  | unterminatedString => "Unterminated string literal"
  | unexpectedCharacter found =>
    "Unexpected character in tag: " ++ Text.quoted found.toString

end LexicalCause

/-- The directives that enclose a body. -/
inductive Enclosure where
  | condition | loop | block
deriving DecidableEq, Repr

namespace Enclosure

def keyword : Enclosure → String
  | condition => "if"
  | loop => "for"
  | block => "block"

def endKeyword : Enclosure → String
  | condition => "endif"
  | loop => "endfor"
  | block => "endblock"

end Enclosure

inductive GrammarCause where
  | unexpected (found : String) (expected : Option String)
  | duplicateArgument (name : String)
  | positionalAfterNamed
  | numberTooLarge (literal : String)
  | unknownDirective (word : String)
  | unmatched (word : String) (openers : List Enclosure)
  | mismatchedEnd (closing block : String)
  | unclosed (enclosure : Enclosure)
  | duplicateBlock (name : String) (line column : Nat)
  | extendsNotFirst
  | tooDeep (limit : Int)
deriving DecidableEq, Repr

namespace GrammarCause

def kind : GrammarCause → String
  | unexpected .. | duplicateArgument _ | positionalAfterNamed | numberTooLarge _ =>
    "UnexpectedToken"
  | unknownDirective _ => "UnknownKeyword"
  | unmatched .. | mismatchedEnd .. => "UnmatchedEnd"
  | unclosed _ => "UnclosedBlock"
  | duplicateBlock .. => "DuplicateBlockName"
  | extendsNotFirst => "ExtendsNotFirst"
  | tooDeep _ => "MaxDepthExceeded"

def message : GrammarCause → String
  | unexpected found none => "Unexpected " ++ found
  | unexpected found (some expected) => "Unexpected " ++ found ++ ", expected " ++ expected
  | duplicateArgument name => "Duplicate filter argument '" ++ name ++ "'"
  | positionalAfterNamed => "Positional filter argument after a named one"
  | numberTooLarge literal =>
    "Number literal is too large: " ++ String.ofList (literal.toList.take 20) ++ "..."
  | unknownDirective word => "Unknown directive: '" ++ word ++ "'"
  | unmatched word openers =>
    "'" ++ word ++ "' without matching " ++
      " or ".intercalate (openers.map fun enclosure => "'" ++ enclosure.keyword ++ "'")
  | mismatchedEnd closing block =>
    "'endblock " ++ closing ++ "' does not match block '" ++ block ++ "'"
  | unclosed enclosure =>
    "Unclosed '" ++ enclosure.keyword ++ "' block, expected '" ++ enclosure.endKeyword ++ "'"
  | duplicateBlock name line column =>
    "Block '" ++ name ++ "' is already defined at " ++ toString line ++ ":" ++ toString column
  | extendsNotFirst => "'extends' must be the first directive of the template"
  | tooDeep limit => "Maximum nesting depth of " ++ toString limit ++ " exceeded"

end GrammarCause

inductive InheritanceCause where
  | missing (name : String)
  | missingReferenced (name referrer : String)
  | cyclic (cycle : List String)
  | tooLong (limit : Nat) (chain : List String)
  | unknownBlock (block child parent : String)
deriving DecidableEq, Repr

namespace InheritanceCause

def kind : InheritanceCause → String
  | missing _ | missingReferenced .. => "MissingParent"
  | cyclic _ | tooLong .. => "CyclicExtends"
  | unknownBlock .. => "UnknownBlockOverride"

def arrows (names : List String) : String :=
  " -> ".intercalate names

def message : InheritanceCause → String
  | missing name => "Template '" ++ name ++ "' not found"
  | missingReferenced name referrer =>
    "Template '" ++ name ++ "' referenced from '" ++ referrer ++ "' not found"
  | cyclic cycle => "Cyclic extends: " ++ arrows cycle
  | tooLong limit chain =>
    "Inheritance chain is longer than " ++ toString limit ++ ": " ++ arrows chain
  | unknownBlock block child parent =>
    "Block '" ++ block ++ "' in '" ++ child ++ "' does not exist in parent '" ++ parent ++ "'"

/-- The templates that the error goes through, for the errors that follow a chain. -/
def cycle : InheritanceCause → List String
  | cyclic names | tooLong _ names => names
  | _ => []

end InheritanceCause

/-- Failures of operations on values. Types are named as diagnostics show them. -/
inductive OperationCause where
  | mismatch (operator left right : String)
  | notNegatable (type : String)
  | divisionByZero
deriving DecidableEq, Repr

namespace OperationCause

def kind : OperationCause → String
  | mismatch .. | notNegatable _ => "TypeMismatch"
  | divisionByZero => "DivisionByZero"

def message : OperationCause → String
  | mismatch operator left right =>
    "Operator '" ++ operator ++ "' is not supported between " ++ left ++ " and " ++ right
  | notNegatable type => "Unary '-' is not supported for " ++ type
  | divisionByZero => "Division by zero"

end OperationCause

inductive RenderCause where
  | undefinedVariable (path : String)
  | unknownFilter (name : String)
  | filterArgument (message : String)
  | operation (cause : OperationCause)
  | notIterable (type : String)
  | tooDeep (limit : Nat)
deriving DecidableEq, Repr

namespace RenderCause

def kind : RenderCause → String
  | undefinedVariable _ => "UndefinedVariable"
  | unknownFilter _ => "UnknownFilter"
  | filterArgument _ => "FilterArgumentError"
  | operation cause => cause.kind
  | notIterable _ => "NotIterable"
  | tooDeep _ => "MaxDepthExceeded"

def message : RenderCause → String
  | undefinedVariable path => "Undefined variable '" ++ path ++ "'"
  | unknownFilter name => "Unknown filter '" ++ name ++ "'"
  | filterArgument message => message
  | operation cause => cause.message
  | notIterable type => "Value of type " ++ type ++ " is not iterable"
  | tooDeep limit => "Maximum include depth of " ++ toString limit ++ " exceeded"

end RenderCause

inductive Cause where
  | lexical (cause : LexicalCause)
  | grammar (cause : GrammarCause)
  | inheritance (cause : InheritanceCause)
  | rendering (cause : RenderCause)
deriving DecidableEq, Repr

namespace Cause

def kind : Cause → String
  | lexical cause => cause.kind
  | grammar cause => cause.kind
  | inheritance cause => cause.kind
  | rendering cause => cause.kind

def message : Cause → String
  | lexical cause => cause.message
  | grammar cause => cause.message
  | inheritance cause => cause.message
  | rendering cause => cause.message

end Cause

/-- A cause with the place that brought it about, if known, and the source line there. -/
structure Located (α : Type) where
  cause : α
  position : Option Position
  snippet : String
deriving DecidableEq, Repr

namespace Located

variable {α : Type}

def of (cause : α) (position : Option Position) (source : Option String) : Located α :=
  ⟨cause, position, match position with
    | some position => Text.line source position.line
    | none => ""⟩

/-- Quotes the line from the sources by template name, unless a line is quoted already. -/
def attach (sources : String → Option String) (located : Located α) : Located α :=
  match located.position with
  | some position =>
    if located.snippet.isEmpty then
      { located with snippet := Text.line (sources position.template) position.line }
    else located
  | none => located

/-- The message with the place after it. -/
def text (message : α → String) (located : Located α) : String :=
  match located.position with
  | some position => message located.cause ++ " at " ++ position.text
  | none => message located.cause

def diagnostic (kind message : α → String) (located : Located α) : Diagnostic :=
  { kind := kind located.cause
    message := message located.cause
    template := (located.position.map (·.template)).getD ""
    line := (located.position.map (·.line)).getD 0
    column := (located.position.map (·.column)).getD 0
    byteOffset := (located.position.map (·.byteOffset)).getD 0
    snippet := located.snippet }

end Located

abbrev Fault := Located Cause

end Templating
