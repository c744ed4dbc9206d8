import Mathlib.Data.List.Basic
import Switchboard.Proofs.Ranking.Plain

/-!
# What a search has tried

A place in a list is a boundary when the item before it is ahead and the item at it is not.
Searches and leaps end at a boundary whatever list they are given: the ahead items need not be in
front. In a list in which they are, there is one boundary only, but nothing below depends on it.

The two neighbours of the place were tried by the search itself, or before it. So a boundary is
all that is known about a place that was found with a comparison that is no order.
-/

namespace Switchboard.Ranking

variable {Item : Type}

/-- The item before a place is ahead, the item at it is not, and the place is in the list or at
its end. -/
structure Boundary (ahead : Item → Bool) (items : List Item) (place : Nat) : Prop where
  inside : place ≤ items.length
  before : ∀ item ∈ (items.take place).getLast?, ahead item = true
  behind : ∀ item ∈ (items.drop place).head?, ahead item = false

/-- The item in front of the place after another place is the item at the latter. -/
theorem getLast?_take_succ {items : List Item} {place : Nat} {item : Item}
    (found : items[place]? = some item) : (items.take (place + 1)).getLast? = some item := by
  simp [List.take_add_one, found]

/-- A search between two tried places ends at a boundary between them.

The induction follows the halving. Each half keeps one of the two tried places and takes the
middle item, which the search has just tried, in the place of the other. -/
theorem search_boundary (direction : Direction) (ahead : Item → Bool) (items : List Item)
    (low high : Nat) (ordered : low ≤ high) (inside : high ≤ items.length)
    (before : ∀ item ∈ (items.take low).getLast?, ahead item = true)
    (behind : ∀ item ∈ (items.drop high).head?, ahead item = false) :
    Boundary ahead items (search direction ahead items low high) := by
  fun_induction search direction ahead items low high with
  | case1 low high room missing =>
    have bound := direction.middle_lt_high room
    have reach : items.length ≤ direction.middle low high := List.getElem?_eq_none_iff.mp missing
    omega
  | case2 low high room item found isAhead ih =>
    have bound := direction.middle_lt_high room
    apply ih bound inside _ behind
    intro last isLast
    rw [getLast?_take_succ found] at isLast
    exact Option.mem_some.mp isLast ▸ isAhead
  | case3 low high room item found isBehind ih =>
    have bound := direction.middle_lt_high room
    apply ih (direction.low_le_middle low high) (by omega) before
    intro first isFirst
    rw [List.head?_drop, found] at isFirst
    exact Option.mem_some.mp isFirst ▸ Bool.eq_false_iff.mpr isBehind
  | case4 low high closed =>
    have met : low = high := by omega
    subst met
    exact ⟨inside, before, behind⟩

/-- Leaping on from an item that is ahead ends at a boundary. -/
theorem leapFrom_boundary (direction : Direction) (ahead : Item → Bool) (items : List Item)
    (last next : Nat) (ordered : last < next) (inside : last < items.length)
    (before : ∀ item ∈ (items.take (last + 1)).getLast?, ahead item = true) :
    Boundary ahead items (leapFrom direction ahead items last next) := by
  fun_induction leapFrom direction ahead items last next with
  | case1 last next missing =>
    exact search_boundary direction ahead items _ _ inside (Nat.le_refl _) before (by simp)
  | case2 last next item found isAhead ih =>
    obtain ⟨reached, _⟩ := List.getElem?_eq_some_iff.mp found
    apply ih (by omega) reached
    intro latest isLatest
    rw [getLast?_take_succ found] at isLatest
    exact Option.mem_some.mp isLatest ▸ isAhead
  | case3 last next item found isBehind =>
    obtain ⟨reached, _⟩ := List.getElem?_eq_some_iff.mp found
    apply search_boundary direction ahead items _ _ ordered (Nat.le_of_lt reached) before
    intro first isFirst
    rw [List.head?_drop, found] at isFirst
    exact Option.mem_some.mp isFirst ▸ Bool.eq_false_iff.mpr isBehind

/-- A leap ends at a boundary; where the first item is not ahead, this is the front of the
list. -/
theorem leap_boundary (direction : Direction) (ahead : Item → Bool) (items : List Item) :
    Boundary ahead items (leap direction ahead items) := by
  cases items with
  | nil => exact ⟨Nat.le_refl _, by simp, by simp⟩
  | cons first rest =>
    by_cases isAhead : ahead first = true
    · simp only [leap, isAhead, if_true]
      exact leapFrom_boundary direction ahead _ 0 1 Nat.zero_lt_one (by simp) (by simp [isAhead])
    · simp only [leap, isAhead]
      exact ⟨Nat.zero_le _, by simp, by simp [isAhead]⟩

end Switchboard.Ranking
