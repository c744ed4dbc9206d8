/-!
# Searching a list by halving

A search finds the place in a list up to which its items are ahead, where those that are ahead are in front.
It tries the item in the middle of a stretch and goes on in one half of it. A leap searches from the front: it
tries the items at 0, 1, 3, 7, 15 and so on until one is not ahead, and then halves between the last two.

Where the items that are ahead are not all in front, the place is one of several that will do: the item before
it is ahead and the item at it is not, and both were tried. To try an item may fail, which ends the search.
-/

namespace Switchboard.Ranking

/-- How a list stands for a run: as it is, or turned round. -/
inductive Direction where
  | forward | backward
deriving DecidableEq, Repr

namespace Direction

/-- The middle of a stretch. Of two middle items it is the one nearer to the end of the run. -/
def middle (direction : Direction) (low high : Nat) : Nat :=
  match direction with
  | .forward => low + (high - low) / 2
  | .backward => low + (high - low - 1) / 2

/-- The middle of a stretch does not lie in front of it. -/
theorem low_le_middle (direction : Direction) (low high : Nat) :
    low ≤ direction.middle low high := by
  cases direction <;> exact Nat.le_add_right ..

/-- The middle of a stretch lies in front of its end. -/
theorem middle_lt_high (direction : Direction) {low high : Nat} (room : low < high) :
    direction.middle low high < high := by
  cases direction <;> simp only [middle] <;> omega

end Direction

variable {Item Fault : Type}

/-- The place between the positions `low` and `high` up to which items are ahead. -/
def searchM (direction : Direction) (ahead : Item → Except Fault Bool) (items : List Item)
    (low high : Nat) : Except Fault Nat :=
  if _room : low < high then
    match items[direction.middle low high]? with
    | none => .ok low
    | some item => do
      if ← ahead item then searchM direction ahead items (direction.middle low high + 1) high
      else searchM direction ahead items low (direction.middle low high)
  else .ok low
termination_by high - low
decreasing_by
  · have := direction.low_le_middle low high
    have := direction.middle_lt_high _room
    omega
  · have := direction.middle_lt_high _room
    omega

/-- Leaps on from the place `next`, when the item at `last` is ahead. -/
def leapFromM (direction : Direction) (ahead : Item → Except Fault Bool) (items : List Item)
    (last next : Nat) : Except Fault Nat :=
  match tried : items[next]? with
  | none => searchM direction ahead items (last + 1) items.length
  | some item => do
    if ← ahead item then leapFromM direction ahead items next (2 * next + 1)
    else searchM direction ahead items (last + 1) next
termination_by items.length - next
decreasing_by
  obtain ⟨inside, _⟩ := List.getElem?_eq_some_iff.mp tried
  omega

/-- The number of items at the front of a list that are ahead. -/
def leapM (direction : Direction) (ahead : Item → Except Fault Bool) (items : List Item) :
    Except Fault Nat :=
  match items with
  | [] => .ok 0
  | first :: _ => do
    if ← ahead first then leapFromM direction ahead items 0 1 else return 0

end Switchboard.Ranking
