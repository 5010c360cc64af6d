/-!
Options of compiling, resolving and rendering.
-/

namespace Templating

inductive EscapeMode where
  | none | html
deriving DecidableEq, Repr

/-- What a variable without a value gives: an error or null. -/
inductive UndefinedMode where
  | strict | lenient
deriving DecidableEq, Repr

/-- What a block gives that no ancestor has: an error or a block at the end. -/
inductive OverrideMode where
  | strict | lenient
deriving DecidableEq, Repr

/-- Nesting deeper than this is not supported. -/
def greatestDepth : Nat := 100

/-- `depth` limits the nesting of expressions and blocks, the length of a chain of parents and the
nesting of inclusions. -/
structure Options where
  escape : EscapeMode := .html
  undefined : UndefinedMode := .strict
  override : OverrideMode := .strict
  depth : Nat := 64
  positive : 0 < depth := by decide
  bounded : depth ≤ greatestDepth := by decide
deriving DecidableEq, Repr

namespace EscapeMode

def name : EscapeMode → String
  | none => "none"
  | html => "html"

def all : List EscapeMode := [none, html]

end EscapeMode

namespace UndefinedMode

def name : UndefinedMode → String
  | strict => "strict"
  | lenient => "lenient"

def all : List UndefinedMode := [strict, lenient]

end UndefinedMode

namespace OverrideMode

def name : OverrideMode → String
  | strict => "strict"
  | lenient => "lenient"

def all : List OverrideMode := [strict, lenient]

end OverrideMode

end Templating
