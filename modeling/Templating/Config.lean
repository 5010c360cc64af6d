import Templating.Delimiters
import Templating.Dictionary
import Templating.Options
import Templating.Sorting
import Templating.Text.Case
import Templating.Value.Text
import Templating.Yaml.Fault

/-!
Options and delimiters read from values, such as those of a configuration file.
-/

namespace Templating

inductive ConfigFault where
  | delimiters (fault : DelimiterFault)
  | depthNotPositive (found : Value)
  | depthTooLarge (depth : Int)
  | optionsNotMapping (className : String)
  | unknownOptions (names : List String)
  | invalidChoice (option : String) (found : Value) (allowed : List String)
  | delimitersNotMapping (className : String)
  | unknownDelimiters (names : List String)
  | notPair (name : String)
  | unreadable (path : String)
  | content (path : String) (fault : Yaml.Fault)
  | fileNotMapping (path : String)
  | noText
deriving Repr

namespace ConfigFault

def message : ConfigFault → String
  | delimiters fault => fault.message
  | depthNotPositive found =>
    "max_recursion_depth must be a positive integer, got " ++ found.quoted
  | depthTooLarge depth =>
    "max_recursion_depth must not exceed " ++ toString greatestDepth ++ ", got " ++
      toString depth
  | optionsNotMapping className => "Options must be a mapping, got " ++ className
  | unknownOptions names => "Unknown option(s): " ++ ", ".intercalate names
  | invalidChoice option found allowed =>
    "Invalid value for '" ++ option ++ "': " ++ found.quoted ++ " (expected one of: " ++
      ", ".intercalate allowed ++ ")"
  | delimitersNotMapping className => "'syntax' must be a mapping, got " ++ className
  | unknownDelimiters names => "Unknown syntax key(s): " ++ ", ".intercalate names
  | notPair name => "syntax." ++ name ++ " must be a pair of strings [open, close]"
  | unreadable path => "Cannot read config " ++ path
  | content path _ => "Invalid YAML in " ++ path
  | fileNotMapping path => "YAML must be a mapping: " ++ path
  | noText => "A number has too many digits"

/-- A fault that quotes a value, unless the value cannot be written. -/
def quoting (found : Value) (fault : ConfigFault) : ConfigFault :=
  if found.hasText then fault else noText

end ConfigFault

/-- The entry of a mapping under a text. -/
def valueUnder? (entries : List (Key × Value)) (name : String) : Option Value :=
  valueAt? entries (.string name false)

/-- The texts of the keys that are none of these, in order. -/
def keysOtherThan (known : List String) (keys : List Key) : Except ConfigFault (List String) :=
  let others := keys.filter fun key => !known.any fun name => key.same (.string name false)
  if others.all Key.hasText then
    .ok (Sorting.sort (fun left right => decide (left < right)) (others.map Key.text))
  else .error .noText

/-- The new value of one option. -/
inductive Amendment where
  | escape (mode : EscapeMode)
  | undefined (mode : UndefinedMode)
  | override (mode : OverrideMode)
  | depth (found : Value)
deriving Repr

namespace Options

theorem depth_positive {depth : Int} (positive : ¬depth < 1) : 0 < depth.toNat := by
  omega

theorem depth_bounded {depth : Int} (bounded : ¬(greatestDepth : Int) < depth) :
    depth.toNat ≤ greatestDepth := by
  omega

/-- A depth is a positive whole number up to the greatest supported. -/
def withDepth (options : Options) (found : Value) : Except ConfigFault Options :=
  match found with
  | .number (.int depth) =>
    if positive : depth < 1 then .error (.quoting found (.depthNotPositive found))
    else if bounded : (greatestDepth : Int) < depth then
      .error (.quoting found (.depthTooLarge depth))
    else
      .ok { options with
        depth := depth.toNat
        positive := depth_positive positive
        bounded := depth_bounded bounded }
  | _ => .error (.quoting found (.depthNotPositive found))

/-- One of several modes by its name, in any case and with white space around. -/
def choice {α : Type} (option : String) (all : List α) (name : α → String) (found : Value) :
    Except ConfigFault α :=
  let chosen := found.text?.bind fun text =>
    all.find? fun mode => name mode == Text.lower (Text.trim text)
  match chosen with
  | some mode => .ok mode
  | none => .error (.quoting found (.invalidChoice option found (all.map name)))

/-- Null stands for the mode that is named like it. -/
def escapeChoice (found : Value) : Except ConfigFault EscapeMode :=
  match found with
  | .null => .ok .none
  | found => choice "escape_mode" EscapeMode.all EscapeMode.name found

def names : List String :=
  ["escape_mode", "undefined_variable", "block_override", "max_recursion_depth"]

def choose {α : Type} (entries : List (Key × Value)) (name : String) (initial : α)
    (read : Value → Except ConfigFault α) : Except ConfigFault α :=
  match valueUnder? entries name with
  | some found => read found
  | none => .ok initial

/-- Options have these names; delimiters may stand beside them. -/
def checkNames (keys : List Key) : Except ConfigFault Unit := do
  let unknown ← keysOtherThan ("syntax" :: names) keys
  if !unknown.isEmpty then throw (.unknownOptions unknown)

def ofKnownEntries (entries : List (Key × Value)) : Except ConfigFault Options := do
  let escape ← choose entries "escape_mode" .html escapeChoice
  let undefined ← choose entries "undefined_variable" .strict
    (choice "undefined_variable" UndefinedMode.all UndefinedMode.name)
  let override ← choose entries "block_override" .strict
    (choice "block_override" OverrideMode.all OverrideMode.name)
  let options : Options := { escape := escape, undefined := undefined, override := override }
  choose entries "max_recursion_depth" options options.withDepth

def ofEntries (entries : List (Key × Value)) : Except ConfigFault Options := do
  checkNames (entries.map (·.1))
  ofKnownEntries entries

/-- Options from a mapping, with the usual ones where it is silent. Its delimiters are passed
over. -/
def ofValue : Value → Except ConfigFault Options
  | .mapping entries => ofEntries entries
  | value => .error (.optionsNotMapping value.className)

/-- The options after some changes, of which only a depth can be refused. -/
def amend (options : Options) : List Amendment → Except ConfigFault Options
  | [] => .ok options
  | .escape mode :: rest => { options with escape := mode }.amend rest
  | .undefined mode :: rest => { options with undefined := mode }.amend rest
  | .override mode :: rest => { options with override := mode }.amend rest
  | .depth found :: rest => do (← options.withDepth found).amend rest

def toEntries (options : Options) : Dictionary Value :=
  [("escape_mode", .string options.escape.name),
    ("undefined_variable", .string options.undefined.name),
    ("block_override", .string options.override.name),
    ("max_recursion_depth", .int options.depth)]

def toValue (options : Options) : Value :=
  .mapping (options.toEntries.map fun entry => (.string entry.1 false, entry.2))

end Options

namespace Delimiters

def pair (name : String) : Value → Except ConfigFault (String × String)
  | .sequence _ [.string opener _, .string close _] => .ok (opener, close)
  | _ => .error (.notPair name)

def ofEntries (entries : List (Key × Value)) : Except ConfigFault Delimiters := do
  let unknown ← keysOtherThan ["expression", "block", "comment"] (entries.map (·.1))
  if !unknown.isEmpty then throw (.unknownDelimiters unknown)
  let usual : Delimiters := {}
  let expression ← Options.choose entries "expression"
    (usual.expressionOpen, usual.expressionClose) (pair "expression")
  let block ← Options.choose entries "block" (usual.blockOpen, usual.blockClose) (pair "block")
  let comment ← Options.choose entries "comment"
    (usual.commentOpen, usual.commentClose) (pair "comment")
  let delimiters : Delimiters :=
    { expressionOpen := expression.1, expressionClose := expression.2
      blockOpen := block.1, blockClose := block.2
      commentOpen := comment.1, commentClose := comment.2 }
  match delimiters.checked with
  | .ok delimiters => return delimiters
  | .error fault => throw (.delimiters fault)

/-- Delimiters from a mapping of pairs, with the usual ones where it is silent. -/
def ofValue : Value → Except ConfigFault Delimiters
  | .null => .ok {}
  | .mapping entries => ofEntries entries
  | value => .error (.delimitersNotMapping value.className)

end Delimiters

end Templating
