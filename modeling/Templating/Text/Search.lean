/-!
Searching and replacing one text inside another.
-/

namespace Templating.Text

def isInfix (pattern : List Char) : List Char → Bool
  | [] => pattern.isEmpty
  | c :: rest => pattern.isPrefixOf (c :: rest) || isInfix pattern rest

/-- Replaces occurrences from left to right; `skip` counts characters of a match still to drop. -/
def replaceFrom (old new : List Char) (skip : Nat) : List Char → List Char
  | [] => []
  | c :: rest =>
    if skip ≠ 0 then replaceFrom old new (skip - 1) rest
    else if old.isPrefixOf (c :: rest) then new ++ replaceFrom old new (old.length - 1) rest
    else c :: replaceFrom old new 0 rest

/-- An empty pattern occurs before every character and at the end. -/
def replace (old new text : String) : String :=
  let chars := text.toList
  if old.isEmpty then
    String.ofList (new.toList ++ chars.flatMap fun c => c :: new.toList)
  else String.ofList (replaceFrom old.toList new.toList 0 chars)

end Templating.Text
