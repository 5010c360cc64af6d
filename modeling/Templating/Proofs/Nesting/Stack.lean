import Templating.Proofs.Grammar.BodyReadBack

/-!
Directives nest as a machine with a stack of open directives takes them. It sees nothing of a
directive but its keyword.
-/

namespace Templating

namespace Nesting

open Grammar

/-- Which part of a directive that is open has been come to. -/
inductive Stage where
  | conditionBody | conditionElse
  | loopBody | loopElse
  | block
deriving DecidableEq, Repr

namespace Stage

def enclosure : Stage → Enclosure
  | conditionBody | conditionElse => .condition
  | loopBody | loopElse => .loop
  | block => .block

/-- The words that the stage takes, with the stage that follows if they do not end the directive. -/
def moves : Stage → List (String × Option Stage)
  | conditionBody => [("elif", some conditionBody), ("else", some conditionElse), ("endif", none)]
  | conditionElse => [("endif", none)]
  | loopBody => [("else", some loopElse), ("endfor", none)]
  | loopElse => [("endfor", none)]
  | block => [("endblock", none)]

/-- The words that open a directive. -/
def openers : List (String × Stage) :=
  [("if", conditionBody), ("for", loopBody), ("block", block)]

end Stage

/-- A directive that is open, and its keyword. -/
structure Frame where
  stage : Stage
  keyword : Token
deriving DecidableEq, Repr

/-- What becomes of the open directives at a word that continues or ends the innermost one. -/
def continued (word : String) : List Frame → Option (List Frame)
  | [] => none
  | frame :: outer => (frame.stage.moves.lookup word).map fun next =>
      (next.map fun stage => Frame.mk stage frame.keyword).toList ++ outer

/-- What becomes of the open directives at a directive with this keyword, if it can be taken. -/
def take (keyword : Token) (stack : List Frame) : Option (List Frame) :=
  match Stage.openers.lookup keyword.value with
  | some stage => some (⟨stage, keyword⟩ :: stack)
  | none => if bodyEnds.contains keyword.value then continued keyword.value stack else some stack

/-- The directives that are open after all keywords, or the first keyword that cannot be taken. -/
def run : List Frame → List Token → Except Token (List Frame)
  | stack, [] => .ok stack
  | stack, keyword :: keywords =>
    match take keyword stack with
    | some after => run after keywords
    | none => .error keyword

/-- The most directives that are ever open at once. -/
def peak : List Frame → List Token → Nat
  | stack, [] => stack.length
  | stack, keyword :: keywords =>
    match take keyword stack with
    | some after => max stack.length (peak after keywords)
    | none => stack.length

/-- Nothing may be left open at the end. -/
def verdict (stack : List Frame) (keywords : List Token) : Except Refusal Unit :=
  match run stack keywords with
  | .error keyword => .error (.unmatched keyword.value (enclosuresOf keyword.value), keyword)
  | .ok [] => .ok ()
  | .ok (frame :: _) => .error (.unclosed frame.stage.enclosure, frame.keyword)

/-- The open directives as the parser of bodies holds them. -/
def openings (stack : List Frame) : List Opening :=
  stack.map fun frame => (frame.stage.enclosure, frame.keyword)

/-- The words that end the body that is being read. -/
def terminators : List Frame → List String
  | [] => []
  | frame :: _ => frame.stage.moves.map (·.1)

variable {stack after : List Frame} {keyword : Token} {keywords : List Token}

theorem verdict_taken (taken : take keyword stack = some after) :
    verdict stack (keyword :: keywords) = verdict after keywords := by
  rw [verdict, run, taken]
  rfl

theorem verdict_untaken (untaken : take keyword stack = none) :
    verdict stack (keyword :: keywords) =
      .error (.unmatched keyword.value (enclosuresOf keyword.value), keyword) := by
  rw [verdict, run, untaken]

theorem peak_taken (taken : take keyword stack = some after) :
    peak after keywords ≤ peak stack (keyword :: keywords) := by
  rw [peak, taken]
  exact Nat.le_max_right _ _

theorem length_le_peak (stack : List Frame) (keywords : List Token) :
    stack.length ≤ peak stack keywords := by
  cases keywords with
  | nil => exact Nat.le_refl _
  | cons keyword keywords =>
      rw [peak]
      split
      · exact Nat.le_max_left _ _
      · exact Nat.le_refl _

theorem take_opener {stage : Stage} (opens : Stage.openers.lookup keyword.value = some stage)
    (stack : List Frame) : take keyword stack = some (⟨stage, keyword⟩ :: stack) := by
  rw [take, opens]

/-- A directive that stands alone changes nothing. -/
theorem take_alone (noOpener : Stage.openers.lookup keyword.value = none)
    (noEnd : keyword.value ∉ bodyEnds) (stack : List Frame) : take keyword stack = some stack := by
  rw [take, noOpener]
  exact if_neg (by simpa using noEnd)

theorem lookup_openers_of_end {word : String} (ends : word ∈ bodyEnds) :
    Stage.openers.lookup word = none := by
  simp only [bodyEnds, List.mem_cons, List.not_mem_nil, or_false] at ends
  rcases ends with rfl | rfl | rfl | rfl | rfl <;> decide

theorem take_end (ends : keyword.value ∈ bodyEnds) :
    take keyword stack = continued keyword.value stack := by
  rw [take, lookup_openers_of_end ends]
  exact if_pos (by simpa using ends)

theorem terminators_subset (stack : List Frame) : terminators stack ⊆ bodyEnds := by
  cases stack with
  | nil => exact List.nil_subset _
  | cons frame outer =>
      obtain ⟨stage, keyword⟩ := frame
      show stage.moves.map (·.1) ⊆ bodyEnds
      cases stage <;> decide

theorem take_move {frame : Frame} {outer : List Frame} {next : Option Stage}
    (listed : keyword.value ∈ terminators (frame :: outer))
    (moves : frame.stage.moves.lookup keyword.value = some next) :
    take keyword (frame :: outer) =
      some ((next.map fun stage => Frame.mk stage frame.keyword).toList ++ outer) := by
  rw [take_end (terminators_subset _ listed), continued, moves]
  rfl

/-- A word that continues or ends a directive is taken just where it ends the body. -/
theorem take_untaken (ends : keyword.value ∈ bodyEnds)
    (other : keyword.value ∉ terminators stack) : take keyword stack = none := by
  rw [take_end ends]
  cases stack with
  | nil => rfl
  | cons frame outer =>
      have absent : frame.stage.moves.lookup keyword.value = none := by
        rw [List.lookup_eq_none_iff]
        intro move member
        apply bne_iff_ne.mpr
        intro same
        apply other
        rw [same]
        exact List.mem_map_of_mem member
      rw [continued, absent]
      rfl

end Nesting

end Templating
