import Templating.Text.CaseTable
import Templating.Text.CaseContext

/-!
Upper case, lower case and title case of a text. One character may become several, and a capital
sigma at the end of a word becomes the final form of the small one.
-/

namespace Templating.Text

def inRanges (ranges : List (Nat × Nat)) (c : Char) : Bool :=
  ranges.any fun range => range.1 ≤ c.toNat && c.toNat ≤ range.2

def CaseRun.covers (run : CaseRun) (code : Nat) : Bool :=
  run.first ≤ code && code ≤ run.last && (code - run.first) % run.stride == 0

/-- The image of a character: its sequence if it has one, else its run's shift, else itself. -/
def mapCase (runs : List CaseRun) (sequences : List (Nat × List Nat)) (c : Char) : List Char :=
  match sequences.lookup c.toNat with
  | some codes => codes.map Char.ofNat
  | none =>
    match runs.find? (·.covers c.toNat) with
    | some run => [Char.ofNat (c.toNat + run.distance).toNat]
    | none => [c]

def upperChar (c : Char) : List Char :=
  if c.toNat < 128 then [c.toUpper] else mapCase upperRuns upperSequences c

def lowerChar (c : Char) : List Char :=
  if c.toNat < 128 then [c.toLower] else mapCase lowerRuns lowerSequences c

def titleChar (c : Char) : List Char :=
  if c.toNat < 128 then [c.toUpper] else mapCase titleRuns titleSequences c

def isCased (c : Char) : Bool :=
  inRanges casedRanges c

def isCaseIgnorable (c : Char) : Bool :=
  inRanges caseIgnorableRanges c

/-- Whether the nearest character that counts, outward from a sigma, is a cased one. -/
def meetsCased (outward : List Char) : Bool :=
  ((outward.dropWhile isCaseIgnorable).head?.map isCased).getD false

/-- The lower case of a character between what stands before it, backwards, and after it. -/
def lowerWithin (before : List Char) (c : Char) (after : List Char) : List Char :=
  if c.toNat = 0x3A3 then
    [Char.ofNat (if meetsCased before && !meetsCased after then 0x3C2 else 0x3C3)]
  else lowerChar c

def lowerFrom (before : List Char) : List Char → List Char
  | [] => []
  | c :: rest => lowerWithin before c rest ++ lowerFrom (c :: before) rest

/-- A letter takes its title form unless the character before it is cased. -/
def titleFrom (before : List Char) : List Char → List Char
  | [] => []
  | c :: rest =>
    let image :=
      if (before.head?.map isCased).getD false then lowerWithin before c rest else titleChar c
    image ++ titleFrom (c :: before) rest

def upper (text : String) : String :=
  String.ofList (text.toList.flatMap upperChar)

def lower (text : String) : String :=
  String.ofList (lowerFrom [] text.toList)

def title (text : String) : String :=
  String.ofList (titleFrom [] text.toList)

/-- The first character in title form and the others in lower case. -/
def capitalize (text : String) : String :=
  String.ofList (match text.toList with
    | [] => []
    | c :: rest => titleChar c ++ lowerFrom [c] rest)

end Templating.Text
