import Switchboard.Ranking.Search
import Switchboard.Trace

/-!
# Merging two runs

Two runs that follow each other are merged from the front if the first is not the longer one, and else from the
end, which is the same for the runs turned round. What is in place already is left out: the items of the first
run that stay in front, and those of the second that stay behind.

A merge places one item after another until one side has come first many times in a row. It then leaps: it places
all the items of one side that come first, the item of the other side that they come before, and so on, as
long as leaps are long. How many times in a row it takes is the patience of the sort, which changes with what
leaps have brought and lasts from one merge to the next.

Left of a merge is the side whose last item comes last, so that the right side runs out first. With a
comparison that is no order the left side may do so too. To compare two items may fail, which ends the merge.
-/

namespace Switchboard.Ranking

/-- The length from which on a leap is long; the patience at first. -/
def longLeap : Nat := 7

/-- The two runs that are merged. -/
inductive Side where
  | left | right
deriving DecidableEq, Repr

/-- The side across. -/
def Side.other : Side → Side
  | .left => .right
  | .right => .left

/-- How a merge goes on. -/
inductive Pace where
  /-- Item by item, each side having come first so many times in a row. -/
  | steps (lefts rights : Nat)
  | leaps
deriving DecidableEq, Repr

/-- What a merge has placed, what there still is on either side, and how it goes on. -/
structure Merge (Item : Type) where
  placed : List Item
  left : List Item
  right : List Item
  pace : Pace := .steps 0 0
  patience : Nat

namespace Merge

variable {Item Fault : Type}

/-- Whether nothing is left to compare: the last item of the left side comes last anyway. -/
def isSettled (merge : Merge Item) : Bool :=
  merge.left.length ≤ 1 || merge.right.isEmpty

/-- The merged run, once nothing is left to compare. -/
def result (merge : Merge Item) : List Item :=
  merge.placed ++ merge.right ++ merge.left

/-- How many items are left on both sides. -/
def size (merge : Merge Item) : Nat :=
  merge.left.length + merge.right.length

/-- Places some items of a side. -/
def take (side : Side) (count : Nat) (merge : Merge Item) : Merge Item :=
  match side with
  | .left =>
    { merge with
      placed := merge.placed ++ merge.left.take count
      left := merge.left.drop count }
  | .right =>
    { merge with
      placed := merge.placed ++ merge.right.take count
      right := merge.right.drop count }

/-- Places one item of a side, unless all is settled. -/
def moveOn (side : Side) (merge : Merge Item) : Merge Item :=
  if merge.isSettled then merge else merge.take side 1

/-- The side that leaps first. -/
def opening : Direction → Side
  | .forward => .left
  | .backward => .right

/-- Goes on after a side came first `wins` times in a row. -/
def paced (merge : Merge Item) (wins : Nat) (pace : Pace) : Merge Item :=
  { merge with pace := if merge.patience ≤ wins then .leaps else pace }

/-- Goes on by leaps with less patience after a long leap, and by steps with more patience else. -/
def repaced (merge : Merge Item) (wins : Nat) : Merge Item :=
  if merge.isSettled then merge
  else if longLeap ≤ wins then { merge with patience := max 1 (merge.patience - 1) }
  else { merge with pace := .steps 0 0, patience := merge.patience + 1 }

section Size

variable (merge : Merge Item)

/-- Placing items leaves no more than there were. -/
theorem size_take_le (side : Side) (count : Nat) : (merge.take side count).size ≤ merge.size := by
  cases side <;> simp only [take, size, List.length_drop] <;> omega

/-- Placing an item at least leaves less than there was. -/
theorem size_take_lt (side : Side) {count : Nat} (positive : 0 < count) {merge : Merge Item}
    (unsettled : merge.isSettled = false) : (merge.take side count).size < merge.size := by
  simp only [isSettled, Bool.or_eq_false_iff, decide_eq_false_iff_not, List.isEmpty_eq_false_iff,
    ← List.length_pos_iff] at unsettled
  cases side <;> simp only [take, size, List.length_drop] <;> omega

/-- Moving on leaves no more than there was. -/
theorem size_moveOn_le (side : Side) : (merge.moveOn side).size ≤ merge.size := by
  unfold moveOn
  split
  · exact Nat.le_refl _
  · exact size_take_le merge side 1

/-- A leap over any number of items and one item of the other side place an item at least. -/
theorem size_moveOn_take_lt (side : Side) (count : Nat) (answer : Side) {merge : Merge Item}
    (unsettled : merge.isSettled = false) :
    ((merge.take side count).moveOn answer).size < merge.size := by
  cases count with
  | zero =>
    have same : merge.take side 0 = merge := by cases side <;> simp [take]
    rw [same, moveOn, unsettled]
    exact size_take_lt answer Nat.one_pos unsettled
  | succ less =>
    exact Nat.lt_of_le_of_lt (size_moveOn_le _ answer)
      (size_take_lt side (Nat.succ_pos less) unsettled)

/-- A pace places no items. -/
@[simp] theorem size_paced (wins : Nat) (pace : Pace) : (merge.paced wins pace).size = merge.size :=
  rfl

/-- A new pace places no items. -/
@[simp] theorem size_repaced (wins : Nat) : (merge.repaced wins).size = merge.size := by
  unfold repaced
  split
  · rfl
  · split <;> rfl

end Size

section Pacing

variable (direction : Direction) (before : Item → Item → Except Fault Bool)

/-- How many items of a side come before the first item of the other. `before` tells whether an item of the
right side comes before one of the left. -/
def leadM (side : Side) (merge : Merge Item) : Except Fault Nat :=
  match side, merge.left, merge.right with
  | .left, left, other :: _ => leapM direction (fun item => (before other item).map not) left
  | .right, other :: _, right => leapM direction (fun item => before item other) right
  | _, _, _ => .ok 0

/-- Places the items of a side that come first, unless all is settled, and says how many there were. -/
def leapOnM (side : Side) (merge : Merge Item) : Except Fault (Merge Item × Nat) :=
  if merge.isSettled then .ok (merge, 0)
  else do
    let count ← merge.leadM direction before side
    return (merge.take side count, count)

/-- The items that both sides place in a round of leaps, and the numbers of those that came first. -/
def roundM (merge : Merge Item) : Except Fault (Merge Item × Nat × Nat) := do
  let first := opening direction
  let (opened, ahead) ← merge.leapOnM direction before first
  let (answered, behind) ← (opened.moveOn first.other).leapOnM direction before first.other
  return (answered.moveOn first, ahead, behind)

/-- One step, or one round of leaps. -/
def stepM (merge : Merge Item) : Except Fault (Merge Item) :=
  match merge.pace, merge.left, merge.right with
  | .leaps, _, _ => do
    let (next, ahead, behind) ← merge.roundM direction before
    return next.repaced (max ahead behind)
  | .steps lefts rights, item :: _, other :: _ => do
    if ← before other item then
      return (merge.take .right 1).paced (rights + 1) (.steps 0 (rights + 1))
    else return (merge.take .left 1).paced (lefts + 1) (.steps (lefts + 1) 0)
  | .steps _ _, _, _ => .ok merge

variable {direction before}

/-- A leap places some items of its side, unless all is settled. -/
theorem leapOnM_eq_ok {side : Side} {merge next : Merge Item} {count : Nat}
    (leapt : merge.leapOnM direction before side = .ok (next, count)) :
    next = if merge.isSettled then merge else merge.take side count := by
  unfold leapOnM at leapt
  split at leapt
  next settled =>
    obtain ⟨rfl, -⟩ : merge = next ∧ 0 = count := by simpa using leapt
    simp [settled]
  next unsettled =>
    obtain ⟨length, -, same⟩ := bind_eq_ok_iff.mp leapt
    obtain ⟨rfl, rfl⟩ : merge.take side length = next ∧ length = count := by simpa using same
    simp [unsettled]

/-- A leap leaves no more than there was. -/
theorem size_leapOnM_le {side : Side} {merge next : Merge Item} {count : Nat}
    (leapt : merge.leapOnM direction before side = .ok (next, count)) : next.size ≤ merge.size := by
  rw [leapOnM_eq_ok leapt]
  split
  · exact Nat.le_refl _
  · exact size_take_le merge side count

/-- A round leaves less than there was, unless the merge was settled. -/
theorem size_roundM_lt {merge next : Merge Item} {counts : Nat × Nat}
    (unsettled : merge.isSettled = false)
    (gone : merge.roundM direction before = .ok (next, counts)) : next.size < merge.size := by
  obtain ⟨⟨opened, ahead⟩, leapt, gone⟩ := bind_eq_ok_iff.mp gone
  obtain ⟨⟨answered, behind⟩, answers, gone⟩ := bind_eq_ok_iff.mp gone
  obtain ⟨rfl, -⟩ : answered.moveOn (opening direction) = next ∧ (ahead, behind) = counts := by
    simpa using gone
  rw [leapOnM_eq_ok leapt, unsettled] at answers
  calc (answered.moveOn (opening direction)).size ≤ answered.size := size_moveOn_le _ _
    _ ≤ _ := size_leapOnM_le answers
    _ < merge.size := size_moveOn_take_lt _ ahead _ unsettled

/-- A step leaves less than there was. -/
theorem size_stepM_lt {merge next : Merge Item} (unsettled : merge.isSettled = false)
    (gone : merge.stepM direction before = .ok next) : next.size < merge.size := by
  unfold stepM at gone
  split at gone
  next =>
    obtain ⟨⟨after, counts⟩, round, same⟩ := bind_eq_ok_iff.mp gone
    obtain rfl : after.repaced (max counts.1 counts.2) = next := by simpa using same
    simpa using size_roundM_lt unsettled round
  next =>
    obtain ⟨comes, -, same⟩ := bind_eq_ok_iff.mp gone
    cases comes with
    | true =>
      obtain rfl := Except.ok.inj same
      simpa using size_take_lt .right Nat.one_pos unsettled
    | false =>
      obtain rfl := Except.ok.inj same
      simpa using size_take_lt .left Nat.one_pos unsettled
  next sides =>
    cases left : merge.left with
    | nil => simp [isSettled, left] at unsettled
    | cons item rest =>
      cases right : merge.right with
      | nil => simp [isSettled, right] at unsettled
      | cons other others => exact (sides _ _ _ _ left right).elim

variable (direction before)

/-- Goes on until all is settled. -/
def runM (merge : Merge Item) : Except Fault (Merge Item) :=
  if _settled : merge.isSettled then .ok merge
  else
    match _gone : merge.stepM direction before with
    | .error fault => .error fault
    | .ok next => runM next
termination_by merge.size
decreasing_by exact size_stepM_lt (Bool.eq_false_iff.mpr _settled) _gone

end Pacing

/-- Merges two sides, of which the right one comes first. -/
def mergedM (direction : Direction) (before : Item → Item → Except Fault Bool)
    (left right : List Item) (patience : Nat) : Except Fault (List Item × Nat) := do
  let start : Merge Item := { placed := right.take 1, left, right := right.drop 1, patience }
  let final ← start.runM direction before
  return (final.result, final.patience)

end Merge

variable {Item Fault : Type} (less : Item → Item → Except Fault Bool)

/-- Merges the stretches of two runs that overlap, of which neither is empty, the shorter one being taken as the
guide: from the front or from the end. -/
def mergeMiddleM (lower upper : List Item) (patience : Nat) : Except Fault (List Item × Nat) :=
  if upper.isEmpty then .ok (lower, patience)
  else if lower.length ≤ upper.length then Merge.mergedM .forward less lower upper patience
  else do
    let (turned, patience) ←
      Merge.mergedM .backward (fun left right => less right left) upper.reverse lower.reverse patience
    return (turned.reverse, patience)

/-- Merges two runs that follow each other, with what patience there is. -/
def mergeRunsM (first second : List Item) (patience : Nat) : Except Fault (List Item × Nat) :=
  match second with
  | [] => .ok (first, patience)
  | head :: _ => do
    let before ← leapM .forward (fun item => (less head item).map not) first
    match (first.drop before).getLast? with
    | none => return (first ++ second, patience)
    | some last =>
      let behind ← leapM .backward (fun item => (less item last).map not) second.reverse
      let kept := second.length - behind
      let (merged, patience) ← mergeMiddleM less (first.drop before) (second.take kept) patience
      return (first.take before ++ merged ++ second.drop kept, patience)

end Switchboard.Ranking
