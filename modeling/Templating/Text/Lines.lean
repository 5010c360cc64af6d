/-!
Lines of a text. A line ends at a line feed, a carriage return or both, at a vertical tab or form
feed, at an information separator other than the unit separator, or at a Unicode line end.
-/

namespace Templating.Text

def isLineEnd (c : Char) : Bool :=
  let code := c.toNat
  (10 ≤ code && code ≤ 13) || (0x1C ≤ code && code ≤ 0x1E) || code == 0x85 || code == 0x2028 ||
    code == 0x2029

/-- `current` holds the open line backwards; an empty last line does not count. -/
def linesFrom (current : List Char) : List Char → List (List Char)
  | [] => if current.isEmpty then [] else [current.reverse]
  | '\r' :: '\n' :: rest => current.reverse :: linesFrom [] rest
  | c :: rest =>
    if isLineEnd c then current.reverse :: linesFrom [] rest else linesFrom (c :: current) rest

def lines (text : String) : List String :=
  (linesFrom [] text.toList).map String.ofList

/-- The text of the line with this number, counted from one, or nothing when there is none. -/
def line (source : Option String) (number : Int) : String :=
  if number < 1 then ""
  else ((source.map lines).getD [])[(number - 1).toNat]?.getD ""

end Templating.Text
