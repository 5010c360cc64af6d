import Templating.Inheritance
import Templating.Sorting

/-!
Loaders: source texts of templates by name.
-/

namespace Templating

structure Loader where
  templates : Dictionary String := []
deriving DecidableEq, Repr

namespace Loader

def load? (loader : Loader) (name : String) : Option String :=
  loader.templates.get? name

def names (loader : Loader) : List String :=
  Sorting.sort (fun left right => decide (left < right)) loader.templates.names

/-- The loader as traces show it. -/
def trace (loader : Loader) : String :=
  "DictLoader([" ++ ", ".intercalate (loader.names.map Text.quoted) ++ "])"

/-- Compiles what a loader has; nothing to remember between two fetches. -/
def source (loader : Option Loader) (delimiters : Delimiters) (options : Options) :
    Source Unit where
  fetch name _ :=
    match loader.bind (·.load? name) with
    | none => (.error .notFound, ())
    | some text =>
      match Template.compile delimiters options.depth name text with
      | .ok template => (.ok template, ())
      | .error fault => (.error (.fault fault), ())
  known _ := (loader.map (·.templates.length)).getD 0

end Loader

end Templating
