import Templating.Filter.Builtin
import Templating.Text.Character

/-!
Registries of filters. A registry never changes; adding a filter gives a new one.
-/

namespace Templating

inductive RegistryFault where
  | invalidName (name : String)
  | notCallable (name : String)
deriving DecidableEq, Repr

namespace RegistryFault

def message : RegistryFault → String
  | invalidName name => "Invalid filter name: " ++ Text.quoted name
  | notCallable name => "Filter '" ++ name ++ "' is not callable"

end RegistryFault

structure Registry where
  filters : Dictionary Filter := []

namespace Registry

def empty : Registry := {}

def builtin : Registry :=
  { filters := Builtin.filters }

def find? (registry : Registry) (name : String) : Option Filter :=
  registry.filters.get? name

def names (registry : Registry) : List String :=
  registry.filters.names

def size (registry : Registry) : Nat :=
  registry.filters.length

def isFilterName (name : String) : Bool :=
  Text.isNameLine name.toList

/-- What a name stands for, which may be no filter at all. -/
abbrev Candidate := Option Filter

def checked (name : String) (candidate : Candidate) : Except RegistryFault (String × Filter) :=
  if isFilterName name then
    match candidate with
    | some filter => .ok (name, filter)
    | none => .error (.notCallable name)
  else .error (.invalidName name)

/-- The registry of these candidates, if each has a valid name and is a filter. -/
def ofCandidates (candidates : Dictionary Candidate) : Except RegistryFault Registry := do
  return { filters := ← candidates.mapM fun entry => checked entry.1 entry.2 }

/-- Adds filters or replaces those of the same names. -/
def merged (registry : Registry) (candidates : Dictionary Candidate) :
    Except RegistryFault Registry :=
  let present : Dictionary Candidate := registry.filters.map fun entry => (entry.1, some entry.2)
  ofCandidates (present.update candidates)

def withFilter (registry : Registry) (name : String) (candidate : Candidate) :
    Except RegistryFault Registry :=
  registry.merged [(name, candidate)]

def sortedNames (registry : Registry) : List String :=
  Sorting.sort (fun left right => decide (left < right)) registry.names

/-- The registry as traces show it. -/
def trace (registry : Registry) : String :=
  "FilterRegistry([" ++ ", ".intercalate (registry.sortedNames.map Text.quoted) ++ "])"

end Registry

end Templating
