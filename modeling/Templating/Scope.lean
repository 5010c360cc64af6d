import Templating.Dictionary
import Templating.Value

/-!
Scopes: a stack of frames over one that never leaves. A name means what the innermost frame that
has it says, and only the innermost frame is ever written.
-/

namespace Templating

abbrev Frame := Dictionary Value

/-- `inner` holds the frames above the root, the innermost first. -/
structure Scope where
  root : Frame := []
  inner : List Frame := []
deriving Repr, Inhabited

namespace Scope

def ofFrame (frame : Frame) : Scope :=
  { root := frame }

/-- All frames, the innermost first. -/
def frames (scope : Scope) : List Frame :=
  scope.inner ++ [scope.root]

/-- The scope with these frames, the outermost first; without any it has an empty root. -/
def ofFrames : List Frame → Scope
  | [] => {}
  | root :: inner => { root := root, inner := inner.reverse }

def depth (scope : Scope) : Nat :=
  scope.inner.length + 1

def lookup? (scope : Scope) (name : String) : Option Value :=
  scope.frames.findSome? fun frame => Dictionary.get? frame name

def set (scope : Scope) (name : String) (value : Value) : Scope :=
  match scope.inner with
  | [] => { scope with root := Dictionary.set scope.root name value }
  | frame :: rest => { scope with inner := Dictionary.set frame name value :: rest }

def push (scope : Scope) (frame : Frame) : Scope :=
  { scope with inner := frame :: scope.inner }

/-- The scope without its innermost frame, unless that is the root. -/
def pop? (scope : Scope) : Option Scope :=
  match scope.inner with
  | [] => none
  | _ :: rest => some { scope with inner := rest }

/-- What every name means, in the order in which the names appear from the root on. -/
def bindings (scope : Scope) : Dictionary Value :=
  scope.frames.reverse.foldl Dictionary.update []

end Scope

/-- Leaving a scope that has only its root is refused in these words. -/
def noScopeMessage : String :=
  "No scope to exit (only the root frame is left)"

end Templating
