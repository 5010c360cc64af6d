import Templating.Config
import Templating.Yaml.Reading

/-!
Configuration files: a mapping in YAML with options and, under `syntax`, delimiters.
-/

namespace Templating

/-- A configuration file: its path, and its text if it can be read. -/
structure ConfigFile where
  path : String
  text : Option String
deriving DecidableEq, Repr

namespace ConfigFile

/-- What the file holds. Whatever counts as false stands for no entries. -/
def content (file : ConfigFile) : Except ConfigFault Yaml.Content :=
  match file.text with
  | none => .error (.unreadable file.path)
  | some text =>
    match Yaml.read text with
    | .error fault => .error (.content file.path fault)
    | .ok content =>
      if !content.root.isTruthy then .ok { root := .mapping 0 [] }
      else if content.root.entries?.isSome then .ok content
      else .error (.fileNotMapping file.path)

/-- The options in a file. Only the values of known ones are looked at. -/
def optionsIn (content : Yaml.Content) : Except ConfigFault Options := do
  let entries := content.root.entries?.getD []
  Options.checkNames (entries.map (·.1))
  Options.ofKnownEntries (entries.filterMap fun (key, datum) =>
    if Options.names.any fun name => key.same (.string name false) then
      some (key, content.value datum)
    else none)

def options (file : ConfigFile) : Except ConfigFault Options := do
  optionsIn (← file.content)

/-- The delimiters in a file, under `syntax`. -/
def delimitersIn (content : Yaml.Content) : Except ConfigFault Delimiters :=
  let found := (content.root.entries?.getD []).find? fun entry =>
    entry.1.same (.string "syntax" false)
  match found with
  | none => .ok {}
  | some (_, datum) =>
    match content.entries? datum with
    | some entries =>
      Delimiters.ofEntries (entries.map fun entry => (entry.1, content.value entry.2))
    | none => Delimiters.ofValue (content.value datum)

/-- Options and delimiters of one file. Faults of the options come first. -/
def settings (file : ConfigFile) : Except ConfigFault (Options × Delimiters) := do
  let content ← file.content
  return (← optionsIn content, ← delimitersIn content)

end ConfigFile

end Templating
