import AnchorLint.Text.Basic

/-!
# Sorting with comparisons that may fail

Values of different kinds have no order, so that a comparison may fail, and
sorting with it.  Sorting takes the longest beginning of a list that is in
order, or strictly in reverse order, and puts every further item into its place
by halving.  Items of which none comes before the other keep their order.
-/

namespace AnchorLint

namespace Sorting

variable {ε α : Type}

/-- Splits a list behind the items that go on falling, or that go on not
falling, from a last item. -/
def run (isLess : α → α → Except ε Bool) (falling : Bool) :
    (last : α) → List α → Except ε (List α × List α)
  | _, [] => .ok ([], [])
  | last, item :: rest => do
    if (← isLess item last) == falling then
      let (items, rest) ← run isLess falling item rest
      return (item :: items, rest)
    else return ([], item :: rest)

/-- The longest beginning of a list that is in order or strictly in reverse
order, in order, and the rest of the list. -/
def beginning (isLess : α → α → Except ε Bool) :
    List α → Except ε (List α × List α)
  | [] => .ok ([], [])
  | [item] => .ok ([item], [])
  | first :: second :: rest => do
    let falling ← isLess second first
    let (items, rest) ← run isLess falling second rest
    let items := first :: second :: items
    return (if falling then items.reverse else items, rest)

/-- Halves an interval of places until the one is left that is behind all items
of a sorted list that do not come behind `item`. -/
def place (isLess : α → α → Except ε Bool) (item : α) (sorted : List α)
    (low high : Nat) : Except ε Nat :=
  if low < high then
    let middle := low + (high - low) / 2
    match sorted[middle]? with
    | none => .ok low
    | some other =>
      match isLess item other with
      | .error error => .error error
      | .ok true => place isLess item sorted low middle
      | .ok false => place isLess item sorted (middle + 1) high
  else .ok low
termination_by high - low

/-- Puts an item into its place in a sorted list. -/
def insert (isLess : α → α → Except ε Bool) (sorted : List α) (item : α) :
    Except ε (List α) := do
  let index ← place isLess item sorted 0 sorted.length
  return sorted.take index ++ item :: sorted.drop index

def sort (isLess : α → α → Except ε Bool) (items : List α) :
    Except ε (List α) := do
  let (sorted, rest) ← beginning isLess items
  rest.foldlM (insert isLess) sorted

end Sorting

end AnchorLint
