import Templating.Cache
import Templating.Canonical
import Templating.Config
import Templating.Config.File
import Templating.Delimiters
import Templating.Diagnostic
import Templating.Dictionary
import Templating.Engine
import Templating.Evaluation
import Templating.Expr
import Templating.Fault
import Templating.Filter
import Templating.Filter.Builtin
import Templating.Filter.Registry
import Templating.Grammar.Body
import Templating.Grammar.Cursor
import Templating.Grammar.Expression
import Templating.Inheritance
import Templating.Loader
import Templating.Number
import Templating.Number.Binary64
import Templating.Number.Decimal
import Templating.Number.Numeral
import Templating.Options
import Templating.Position
import Templating.Proofs.Canonical.Body
import Templating.Proofs.Canonical.Depth
import Templating.Proofs.Canonical.EscapedText
import Templating.Proofs.Canonical.Escaping
import Templating.Proofs.Canonical.Keys
import Templating.Proofs.Canonical.Lexemes
import Templating.Proofs.Canonical.Nesting
import Templating.Proofs.Canonical.RoundTrip
import Templating.Proofs.Canonical.Seam
import Templating.Proofs.Canonical.Spelling
import Templating.Proofs.Dictionary
import Templating.Proofs.Engine.Changes
import Templating.Proofs.Engine.Histories
import Templating.Proofs.Engine.Loads
import Templating.Proofs.Engine.Renderings
import Templating.Proofs.Engine.Retries
import Templating.Proofs.Engine.Sessions
import Templating.Proofs.Engine.Transparency
import Templating.Proofs.Escaping.Evaluation
import Templating.Proofs.Escaping.Explicit
import Templating.Proofs.Escaping.Filters
import Templating.Proofs.Escaping.Output
import Templating.Proofs.Escaping.Rendering
import Templating.Proofs.Every
import Templating.Proofs.Filter.Names
import Templating.Proofs.Filter.Refusals
import Templating.Proofs.Grammar.Accepts
import Templating.Proofs.Grammar.Applications
import Templating.Proofs.Grammar.Arguments
import Templating.Proofs.Grammar.BodyReadBack
import Templating.Proofs.Grammar.Compiled
import Templating.Proofs.Grammar.Derivation
import Templating.Proofs.Grammar.Echoes
import Templating.Proofs.Grammar.EchoesBody
import Templating.Proofs.Grammar.EchoesExpression
import Templating.Proofs.Grammar.Ensures
import Templating.Proofs.Grammar.Exact
import Templating.Proofs.Grammar.Expression
import Templating.Proofs.Grammar.Implements
import Templating.Proofs.Grammar.Levels
import Templating.Proofs.Grammar.Numerals
import Templating.Proofs.Grammar.Operands
import Templating.Proofs.Grammar.Operations
import Templating.Proofs.Grammar.Origins
import Templating.Proofs.Grammar.Parentheses
import Templating.Proofs.Grammar.ParsedBody
import Templating.Proofs.Grammar.ParsedExpression
import Templating.Proofs.Grammar.ParsedTemplate
import Templating.Proofs.Grammar.Pieces
import Templating.Proofs.Grammar.ReadBack
import Templating.Proofs.Grammar.Regular
import Templating.Proofs.Grammar.Reserved
import Templating.Proofs.Grammar.Respelling
import Templating.Proofs.Grammar.Standing
import Templating.Proofs.Grammar.StandingBody
import Templating.Proofs.Grammar.Stays
import Templating.Proofs.Grammar.Tracks
import Templating.Proofs.Grammar.TracksBody
import Templating.Proofs.Grammar.TracksExpression
import Templating.Proofs.Inheritance.Chain
import Templating.Proofs.Inheritance.Classification
import Templating.Proofs.Inheritance.Closure
import Templating.Proofs.Inheritance.Curtails
import Templating.Proofs.Inheritance.Fetches
import Templating.Proofs.Inheritance.Flattening
import Templating.Proofs.Inheritance.Gathering
import Templating.Proofs.Inheritance.Inclusions
import Templating.Proofs.Inheritance.Levels
import Templating.Proofs.Inheritance.Lineage
import Templating.Proofs.Inheritance.Modes
import Templating.Proofs.Inheritance.Parts
import Templating.Proofs.Inheritance.Provenance
import Templating.Proofs.Inheritance.Resumption
import Templating.Proofs.Inheritance.Reuse
import Templating.Proofs.Inheritance.Simulation
import Templating.Proofs.Inheritance.Stack
import Templating.Proofs.Inheritance.Store
import Templating.Proofs.Inheritance.Substitution
import Templating.Proofs.Inheritance.Turns
import Templating.Proofs.Inheritance.Walk
import Templating.Proofs.Inheritance.Worklist
import Templating.Proofs.Inside
import Templating.Proofs.Lexer.Boundaries
import Templating.Proofs.Lexer.Comments
import Templating.Proofs.Lexer.Composition
import Templating.Proofs.Lexer.Displaced
import Templating.Proofs.Lexer.Inside
import Templating.Proofs.Lexer.Located
import Templating.Proofs.Lexer.Marks
import Templating.Proofs.Lexer.Outside
import Templating.Proofs.Lexer.Places
import Templating.Proofs.Lexer.Progress
import Templating.Proofs.Lexer.Sound
import Templating.Proofs.Lexer.Spans
import Templating.Proofs.Lexer.Turns
import Templating.Proofs.Limits.Curtails
import Templating.Proofs.Limits.Parsing
import Templating.Proofs.Limits.Uses
import Templating.Proofs.Loader
import Templating.Proofs.Nesting.Accepted
import Templating.Proofs.Nesting.Bodies
import Templating.Proofs.Nesting.Directives
import Templating.Proofs.Nesting.InsideTags
import Templating.Proofs.Nesting.Items
import Templating.Proofs.Nesting.Lookahead
import Templating.Proofs.Nesting.Pieces
import Templating.Proofs.Nesting.Stack
import Templating.Proofs.Nesting.Steps
import Templating.Proofs.Number.DecimalText
import Templating.Proofs.Number.Finite
import Templating.Proofs.Number.Numeral
import Templating.Proofs.Number.Overflow
import Templating.Proofs.Number.Reading
import Templating.Proofs.Number.Rounding
import Templating.Proofs.Number.Shortest
import Templating.Proofs.Outcome
import Templating.Proofs.Places
import Templating.Proofs.Rendering.Appends
import Templating.Proofs.Rendering.Blame
import Templating.Proofs.Rendering.Confined
import Templating.Proofs.Rendering.Failures
import Templating.Proofs.Rendering.Mentions
import Templating.Proofs.Rendering.Overflows
import Templating.Proofs.Rendering.Paired
import Templating.Proofs.Rendering.Recursion
import Templating.Proofs.Rendering.Scopes
import Templating.Proofs.Rendering.Steps
import Templating.Proofs.Rendering.Stepwise
import Templating.Proofs.Rendering.Turns
import Templating.Proofs.Run
import Templating.Proofs.Scope.Family
import Templating.Proofs.Shells
import Templating.Proofs.Snippets
import Templating.Proofs.Sorting
import Templating.Proofs.Text.Ascii
import Templating.Proofs.Text.Markup
import Templating.Proofs.Value.Equality
import Templating.Proofs.Value.Membership
import Templating.Proofs.Value.Strings
import Templating.Rendering
import Templating.Scope
import Templating.Scope.Family
import Templating.Sorting
import Templating.Template
import Templating.Text.Case
import Templating.Text.CaseContext
import Templating.Text.CaseTable
import Templating.Text.Character
import Templating.Text.Escape
import Templating.Text.Lines
import Templating.Text.Search
import Templating.Text.Unprintable
import Templating.Token
import Templating.Token.Lexer
import Templating.Value
import Templating.Value.Json
import Templating.Value.Operation
import Templating.Value.Text
import Templating.Yaml.Datum
import Templating.Yaml.Directive
import Templating.Yaml.Fault
import Templating.Yaml.Folding
import Templating.Yaml.Indented
import Templating.Yaml.Label
import Templating.Yaml.Node
import Templating.Yaml.Place
import Templating.Yaml.Plain
import Templating.Yaml.Quoted
import Templating.Yaml.Reading
import Templating.Yaml.Scalar
import Templating.Yaml.Tag
import Templating.Yaml.Timestamp
import Templating.Yaml.Token.Lexer
import Templating.Yaml.Token.Lexing
