/-!
Places in a template. A mark is a place in one text; a position also names the template.
-/

namespace Templating

/-- Lines and columns count characters from one; the offset counts UTF-8 bytes from zero. -/
structure Mark where
  line : Nat := 1
  column : Nat := 1
  byteOffset : Nat := 0
deriving DecidableEq, Repr, Inhabited

namespace Mark

/-- The mark after one character. Only a line feed starts a line. -/
def step (mark : Mark) (c : Char) : Mark :=
  if c = '\n' then ⟨mark.line + 1, 1, mark.byteOffset + c.utf8Size⟩
  else ⟨mark.line, mark.column + 1, mark.byteOffset + c.utf8Size⟩

/-- The mark after a text. -/
def past (mark : Mark) (text : List Char) : Mark :=
  text.foldl step mark

end Mark

structure Position where
  template : String
  mark : Mark
deriving DecidableEq, Repr, Inhabited

namespace Position

def line (position : Position) : Nat := position.mark.line

def column (position : Position) : Nat := position.mark.column

def byteOffset (position : Position) : Nat := position.mark.byteOffset

/-- A template without a name is shown as a question mark. -/
def shownName (template : String) : String :=
  if template.isEmpty then "?" else template

def text (position : Position) : String :=
  s!"{shownName position.template}:{position.line}:{position.column}"

end Position

end Templating
