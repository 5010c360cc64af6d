import Templating.Value

/-!
Caches that make the value for a key once. A value that could not be made leaves no entry.
-/

namespace Templating

structure Cache (κ α : Type) where
  entries : List (κ × α) := []
deriving Repr

instance : BEq Key := ⟨Key.same⟩

namespace Cache

variable {κ α ε σ : Type} [BEq κ]

def get? (cache : Cache κ α) (key : κ) : Option α :=
  cache.entries.lookup key

def contains (cache : Cache κ α) (key : κ) : Bool :=
  (cache.get? key).isSome

def size (cache : Cache κ α) : Nat :=
  cache.entries.length

/-- Adds the value for a key that has none. -/
def fill (cache : Cache κ α) (key : κ) (value : α) : Cache κ α :=
  { entries := cache.entries ++ [(key, value)] }

/-- The value for a key, made now if it is not there. -/
def getOrMake (cache : Cache κ α) (key : κ) (make : Except ε α) : Except ε α × Cache κ α :=
  match cache.get? key with
  | some value => (.ok value, cache)
  | none =>
    match make with
    | .ok value => (.ok value, cache.fill key value)
    | .error failure => (.error failure, cache)

/-- Where a state holds a cache. -/
structure Slot (σ κ α : Type) where
  read : σ → Cache κ α
  write : Cache κ α → σ → σ

/-- The same in a state that making the value may change too. A value that is there is given without
making anything; one that was made goes into the cache as it is then. -/
def Slot.getOrMake (slot : Slot σ κ α) (key : κ) (make : ExceptT ε (StateM σ) α) :
    ExceptT ε (StateM σ) α := do
  match (slot.read (← get)).get? key with
  | some value => return value
  | none =>
    let value ← make
    ExceptT.mk <| modifyGet fun state =>
      let entered := (slot.read state).getOrMake key (.ok value)
      (entered.1, slot.write entered.2 state)

end Cache

end Templating
