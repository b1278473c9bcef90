/-
**Sorted lists and lists without repetitions.**

Main definitions:

* `ComponentIndex.insertBy`, `ComponentIndex.sortBy` — stable insertion sort by a key;
* `ComponentIndex.distinct` — a list without repetitions.
-/

import ComponentIndex.Text.Basic

set_option relaxedAutoImplicit false
set_option autoImplicit false

namespace ComponentIndex

/-- Inserts an item into a sorted list, before the items that are greater and behind all others. -/
def insertBy {α : Type} (less : α → α → Bool) (x : α) : List α → List α
  | [] => [x]
  | y :: ys => if less x y then x :: y :: ys else y :: insertBy less x ys

/-- The items in ascending order; equal items keep their order. -/
def sortBy {α : Type} (less : α → α → Bool) (xs : List α) : List α :=
  xs.foldl (fun sorted x => insertBy less x sorted) []

/-- The items of a list without those that occur before. -/
def distinct {α : Type} [BEq α] (xs : List α) : List α :=
  xs.foldl (fun seen x => if seen.contains x then seen else seen ++ [x]) []

end ComponentIndex
