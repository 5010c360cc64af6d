/-!
Entries by name in the order in which the names were first set.
-/

namespace Templating

abbrev Dictionary (α : Type) := List (String × α)

namespace Dictionary

variable {α : Type}

def get? (entries : Dictionary α) (name : String) : Option α :=
  entries.lookup name

def has (entries : Dictionary α) (name : String) : Bool :=
  entries.any (·.1 == name)

/-- A name that is set again keeps its place. -/
def set (entries : Dictionary α) (name : String) (value : α) : Dictionary α :=
  if has entries name then
    entries.map fun entry => if entry.1 == name then (name, value) else entry
  else entries ++ [(name, value)]

/-- Sets every entry of another dictionary. -/
def update (entries others : Dictionary α) : Dictionary α :=
  others.foldl (fun entries other => set entries other.1 other.2) entries

/-- The dictionary that a list of settings leaves. -/
def ofList (settings : List (String × α)) : Dictionary α :=
  update [] settings

def names (entries : Dictionary α) : List String :=
  entries.map (·.1)

end Dictionary

end Templating
