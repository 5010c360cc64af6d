/-!
A stable sort by an order that may fail. The longest sorted start of the list is kept, a falling
one reversed, and the other elements are inserted one by one, each place found by halving.
-/

namespace Templating

namespace Sorting

variable {m : Type → Type} [Monad m] {α : Type}

/-- What continues a run after its last element, and what comes after the run. -/
def runRest (less : α → α → m Bool) (falling : Bool) (last : α) :
    List α → m (List α × List α)
  | [] => return ([], [])
  | x :: rest => do
    if (← less x last) = falling then
      let (run, after) ← runRest less falling x rest
      return (x :: run, after)
    else return ([], x :: rest)

/-- The place behind all elements that the new one is not less than, between two bounds. -/
def place (less : α → α → m Bool) (new : α) (sorted : List α) : Nat → Nat → Nat → m Nat
  | 0, low, _ => return low
  | budget + 1, low, high => do
    let middle := low + (high - low) / 2
    match sorted[middle]? with
    | none => return low
    | some x =>
      if high ≤ low then return low
      else if ← less new x then place less new sorted budget low middle
      else place less new sorted budget (middle + 1) high

def insertAll (less : α → α → m Bool) (sorted : List α) : List α → m (List α)
  | [] => return sorted
  | x :: rest => do
    let index ← place less x sorted (sorted.length + 1) 0 sorted.length
    insertAll less (sorted.take index ++ x :: sorted.drop index) rest

def sortM (less : α → α → m Bool) : List α → m (List α)
  | x :: y :: rest => do
    let falling ← less y x
    let (run, after) ← runRest less falling y rest
    let start := x :: y :: run
    insertAll less (if falling then start.reverse else start) after
  | short => return short

/-- Sorts by an order that always answers. -/
def sort (less : α → α → Bool) (items : List α) : List α :=
  Id.run (sortM (fun x y => pure (less x y)) items)

end Sorting

end Templating
