import Templating.Text.Character

/-!
The marks that open and close the tags of a template.
-/

namespace Templating

inductive DelimiterFault where
  | blank
  | reserved
  | ambiguous (first second : String)
deriving DecidableEq, Repr

namespace DelimiterFault

def message : DelimiterFault → String
  | blank => "Delimiters must be non-empty and contain no surrounding whitespace"
  | reserved => "Delimiters must not contain '\\' or '-'"
  | ambiguous first second =>
    "Open delimiters '" ++ first ++ "' and '" ++ second ++ "' are ambiguous"

end DelimiterFault

structure Delimiters where
  expressionOpen : String := "\x7b\x7b"
  expressionClose : String := "\x7d\x7d"
  blockOpen : String := "\x7b%"
  blockClose : String := "%\x7d"
  commentOpen : String := "\x7b#"
  commentClose : String := "#\x7d"
deriving DecidableEq, Repr, Inhabited

namespace Delimiters

def all (delimiters : Delimiters) : List String :=
  [delimiters.expressionOpen, delimiters.expressionClose, delimiters.blockOpen,
    delimiters.blockClose, delimiters.commentOpen, delimiters.commentClose]

def openers (delimiters : Delimiters) : List String :=
  [delimiters.expressionOpen, delimiters.blockOpen, delimiters.commentOpen]

def isBlankEdged (delimiter : String) : Bool :=
  delimiter.isEmpty || Text.trim delimiter != delimiter

/-- A backslash escapes an opener and a hyphen trims white space, so no delimiter has them. -/
def isReserved (delimiter : String) : Bool :=
  delimiter.contains '\\' || delimiter.contains '-'

def overlap (first second : String) : Bool :=
  second.toList.isPrefixOf first.toList || first.toList.isPrefixOf second.toList

/-- The first pair of openers of which one starts the other. -/
def ambiguity? : List String → Option (String × String)
  | [] => none
  | first :: rest =>
    match rest.find? (overlap first) with
    | some second => some (first, second)
    | none => ambiguity? rest

/-- What keeps six delimiters from telling tags and text apart. -/
def fault? (delimiters : Delimiters) : Option DelimiterFault :=
  if delimiters.all.any isBlankEdged then some .blank
  else if delimiters.all.any isReserved then some .reserved
  else (ambiguity? delimiters.openers).map fun pair => .ambiguous pair.1 pair.2

def Accepted (delimiters : Delimiters) : Prop :=
  delimiters.fault? = none

instance (delimiters : Delimiters) : Decidable delimiters.Accepted :=
  inferInstanceAs (Decidable (_ = _))

def checked (delimiters : Delimiters) : Except DelimiterFault Delimiters :=
  match delimiters.fault? with
  | some fault => .error fault
  | none => .ok delimiters

end Delimiters

end Templating
