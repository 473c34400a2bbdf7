/-!
Stable merge sort with a comparison that may have effects.
-/

namespace Bracket.Library

variable {α : Type} {m : Type → Type} [Monad m]

/-- Merges two lists, taking from the second only what its comparison puts first. -/
def mergeBy (greater : α → α → m Bool) (xs ys : List α) : m (List α) :=
  match xs, ys with
  | [], ys => pure ys
  | xs, [] => pure xs
  | x :: xs, y :: ys => do
    if ← greater x y then
      let rest ← mergeBy greater (x :: xs) ys
      return y :: rest
    else
      let rest ← mergeBy greater xs (y :: ys)
      return x :: rest
termination_by xs.length + ys.length

/-- Sorts the halves, the first half first, and merges them. The length of the list is enough for
`depth`. -/
def sortWithin (greater : α → α → m Bool) : (depth : Nat) → List α → m (List α)
  | 0, items => pure items
  | depth + 1, items =>
    if items.length ≤ 1 then pure items
    else do
      let half := items.length / 2
      let left ← sortWithin greater depth (items.take half)
      let right ← sortWithin greater depth (items.drop half)
      mergeBy greater left right

/-- Sorts by a comparison that says whether its first argument belongs behind its second. -/
def sortBy (greater : α → α → m Bool) (items : List α) : m (List α) :=
  sortWithin greater items.length items

end Bracket.Library
