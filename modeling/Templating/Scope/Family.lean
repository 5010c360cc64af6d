import Templating.Scope

/-!
Families of scopes that share frames. A derived scope has the frames of its origin under a frame of
its own, and a frame that is written changes in every scope that has it.
-/

namespace Templating

/-- Scopes list their frames by number, the innermost first. -/
structure ScopeFamily where
  frames : List Frame := []
  scopes : List (List Nat) := []
deriving Repr

namespace ScopeFamily

def frame (family : ScopeFamily) (number : Nat) : Frame :=
  family.frames[number]?.getD []

/-- The frames of a scope, the innermost first. -/
def framesOf (family : ScopeFamily) (scope : Nat) : List Nat :=
  family.scopes[scope]?.getD []

/-- A scope by itself, as the frames it has now. -/
def view (family : ScopeFamily) (scope : Nat) : Scope :=
  .ofFrames ((family.framesOf scope).reverse.map family.frame)

def size (family : ScopeFamily) : Nat :=
  family.scopes.length

def withFrames (family : ScopeFamily) (scope : Nat) (frames : List Nat) : ScopeFamily :=
  { family with scopes := family.scopes.set scope frames }

/-- A new scope over one new frame. -/
def create (family : ScopeFamily) (frame : Frame) : ScopeFamily :=
  { frames := family.frames ++ [frame], scopes := family.scopes ++ [[family.frames.length]] }

/-- A new scope over the frames of another and one new frame. -/
def derive (family : ScopeFamily) (origin : Nat) (frame : Frame) : ScopeFamily :=
  { frames := family.frames ++ [frame]
    scopes := family.scopes ++ [family.frames.length :: family.framesOf origin] }

def push (family : ScopeFamily) (scope : Nat) (frame : Frame) : ScopeFamily :=
  { family with frames := family.frames ++ [frame] }.withFrames scope
    (family.frames.length :: family.framesOf scope)

/-- The scope without its innermost frame, and that frame, unless it is the last one. -/
def pop? (family : ScopeFamily) (scope : Nat) : Option (Frame × ScopeFamily) :=
  match family.framesOf scope with
  | inner :: next :: rest => some (family.frame inner, family.withFrames scope (next :: rest))
  | _ => none

def set (family : ScopeFamily) (scope : Nat) (name : String) (value : Value) : ScopeFamily :=
  match family.framesOf scope with
  | inner :: _ =>
    { family with
      frames := family.frames.set inner (Dictionary.set (family.frame inner) name value) }
  | [] => family

end ScopeFamily

end Templating
