/-!
# `FacetSearch.Arranged`: putting items in order by a comparison that may fail

`arranged before items` puts items in the order of a comparison that says whether one item goes
strictly before another, or fails. The items at the start that are in order already, or in strictly
falling order, are taken as they come or turned around; every further item is put in by halving,
after all items that it does not go before. Where the comparison orders the items this is the sorted
list, items that go beside each other staying in the order given; where it does not, as with numbers
that compare with nothing, it says which arrangement stands for the list.
-/

set_option autoImplicit false

namespace FacetSearch

variable {ε α : Type}

/-- Splits off the items that go on falling from `last`, or that do not fall. Equal neighbours do
not fall, which keeps the order of equal items. -/
def splitRun (before : α → α → Except ε Bool) (falling : Bool) :
    α → List α → Except ε (List α × List α)
  | _, [] => .ok ([], [])
  | last, x :: xs => do
      if (← before x last) = falling then
        let (run, rest) ← splitRun before falling x xs
        return (x :: run, rest)
      else return ([], x :: xs)

/-- Puts an item into an arranged list by halving it, at most as often as the fuel says. It goes
behind the items that it does not come before. -/
def insertByHalving (before : α → α → Except ε Bool) (item : α) :
    Nat → List α → Except ε (List α)
  | 0, items => .ok (item :: items)
  | fuel + 1, items =>
      match items.splitAt (items.length / 2) with
      | (_, []) => .ok (item :: items)
      | (left, middle :: right) => do
          if ← before item middle then
            return (← insertByHalving before item fuel left) ++ middle :: right
          else return left ++ middle :: (← insertByHalving before item fuel right)

/-- The items in order. Comparing may fail, so it matters which items are compared: a run at the
start is taken as it is, and the other items are put in one by one. -/
def arranged (before : α → α → Except ε Bool) : List α → Except ε (List α)
  | first :: second :: others => do
      let falling ← before second first
      let (run, rest) ← splitRun before falling second others
      let start := first :: second :: run
      rest.foldlM (fun acc item => insertByHalving before item acc.length acc)
        (if falling then start.reverse else start)
  | items => .ok items

end FacetSearch
