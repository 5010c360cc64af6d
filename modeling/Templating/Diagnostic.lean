import Templating.Position

/-!
Diagnostics: an error with the line that caused it and a pointer under the offending column.
-/

namespace Templating

structure Diagnostic where
  kind : String
  message : String
  template : String
  line : Int
  column : Int
  byteOffset : Int
  snippet : String
deriving DecidableEq, Repr

namespace Diagnostic

def spaces (count : Nat) : String :=
  String.ofList (List.replicate count ' ')

/-- Tabs count as one column, so they are shown as one space. -/
def shownLine (text : String) : String :=
  String.ofList (text.toList.map fun c => if c = '\t' then ' ' else c)

def quotedLine (diagnostic : Diagnostic) : List String :=
  if diagnostic.snippet.isEmpty then []
  else
    let number := toString diagnostic.line
    let margin := spaces number.length
    [margin ++ " |",
      number ++ " | " ++ shownLine diagnostic.snippet,
      margin ++ " | " ++ spaces (diagnostic.column - 1).toNat ++ "^"]

/-- Without a line only the message is shown; without a snippet the pointer is left out. -/
def format (diagnostic : Diagnostic) : String :=
  let header := "error: " ++ diagnostic.message
  if diagnostic.line ≤ 0 then header
  else
    let number := toString diagnostic.line
    let place := Position.shownName diagnostic.template ++ ":" ++ number ++ ":" ++
      toString diagnostic.column
    String.intercalate "\n"
      (header :: (spaces number.length ++ "--> " ++ place) :: diagnostic.quotedLine)

end Diagnostic

end Templating
