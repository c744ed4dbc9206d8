import Switchboard.Ranking.Sort

/-!
# Sorting with a comparison that answers

The searches, runs and merges of a sort, for a comparison of which every question is answered. Each is
the one whose comparison may fail (`searchM` to `sortM`) without the failures, and has its name without
the mark. What is known about the order that a sort leads to is proved of these, where nothing stands
between a comparison and what is done with it.
-/

namespace Switchboard.Ranking

variable {Item : Type}

/-- The place between the positions `low` and `high` up to which items are ahead. -/
def search (direction : Direction) (ahead : Item → Bool) (items : List Item) (low high : Nat) : Nat :=
  if _room : low < high then
    match items[direction.middle low high]? with
    | none => low
    | some item =>
      if ahead item then search direction ahead items (direction.middle low high + 1) high
      else search direction ahead items low (direction.middle low high)
  else low
termination_by high - low
decreasing_by
  · have := direction.low_le_middle low high
    have := direction.middle_lt_high _room
    omega
  · have := direction.middle_lt_high _room
    omega

/-- Leaps on from the place `next`, when the item at `last` is ahead. -/
def leapFrom (direction : Direction) (ahead : Item → Bool) (items : List Item) (last next : Nat) :
    Nat :=
  match tried : items[next]? with
  | none => search direction ahead items (last + 1) items.length
  | some item =>
    if ahead item then leapFrom direction ahead items next (2 * next + 1)
    else search direction ahead items (last + 1) next
termination_by items.length - next
decreasing_by
  obtain ⟨inside, _⟩ := List.getElem?_eq_some_iff.mp tried
  omega

/-- The number of items at the front of a list that are ahead. -/
def leap (direction : Direction) (ahead : Item → Bool) (items : List Item) : Nat :=
  match items with
  | [] => 0
  | first :: _ => if ahead first then leapFrom direction ahead items 0 1 else 0

section Runs

variable (less : Item → Item → Bool)

/-- The rest of a falling run after `last`, and what follows the run. -/
def fallingRun (last : Item) : List Item → List Item × List Item
  | [] => ([], [])
  | item :: rest =>
    if less item last then
      let (run, after) := fallingRun item rest
      (item :: run, after)
    else ([], item :: rest)

/-- The rest of a run that never falls after `last`, and what follows the run. -/
def risingRun (last : Item) : List Item → List Item × List Item
  | [] => ([], [])
  | item :: rest =>
    if less item last then ([], item :: rest)
    else
      let (run, after) := risingRun item rest
      (item :: run, after)

/-- The run at the front of a list, in rising order, and what follows it. -/
def firstRun : List Item → List Item × List Item
  | [] => ([], [])
  | [item] => ([item], [])
  | first :: second :: rest =>
    if less second first then
      let (run, after) := fallingRun less second rest
      ((first :: second :: run).reverse, after)
    else
      let (run, after) := risingRun less second rest
      (first :: second :: run, after)

/-- The place for an item in a run: after every item that it does not precede, when the run is in order. -/
def place (item : Item) (run : List Item) : Nat :=
  search .forward (fun other => !less item other) run 0 run.length

/-- Puts an item into a run. -/
def insertItem (run : List Item) (item : Item) : List Item :=
  run.insertIdx (place less item run) item

/-- The run at the front of a list, made as long as `least` if there are enough items, and what follows. -/
def nextRun (least : Nat) (items : List Item) : List Item × List Item :=
  let (run, rest) := firstRun less items
  let missing := least - run.length
  ((rest.take missing).foldl (insertItem less) run, rest.drop missing)

/-- A falling run and what follows it are what it was sought in. -/
theorem fallingRun_append (last : Item) (items : List Item) :
    (fallingRun less last items).1 ++ (fallingRun less last items).2 = items := by
  induction items generalizing last with
  | nil => rfl
  | cons item rest ih =>
    simp only [fallingRun]
    split
    · simp [ih item]
    · rfl

/-- A run that never falls and what follows it are what it was sought in. -/
theorem risingRun_append (last : Item) (items : List Item) :
    (risingRun less last items).1 ++ (risingRun less last items).2 = items := by
  induction items generalizing last with
  | nil => rfl
  | cons item rest ih =>
    simp only [risingRun]
    split
    · rfl
    · simp [ih item]

/-- The run at the front of a list and what follows it are the list, but for the order of the run. -/
theorem firstRun_perm (items : List Item) :
    ((firstRun less items).1 ++ (firstRun less items).2).Perm items := by
  match items with
  | [] => exact .nil
  | [item] => exact .refl _
  | first :: second :: rest =>
    simp only [firstRun]
    split
    · have parts := fallingRun_append less second rest
      refine ((List.reverse_perm _).append_right _).trans ?_
      simp [parts]
    · simp [risingRun_append]

/-- A list begins with a run unless it is empty. -/
theorem firstRun_ne_nil {items : List Item} (some : items ≠ []) :
    (firstRun less items).1 ≠ [] := by
  match items with
  | [] => exact absurd rfl some
  | [item] => simp [firstRun]
  | first :: second :: rest =>
    simp only [firstRun]
    split <;> simp

/-- What follows the run at the front of a list is shorter than the list. -/
theorem length_nextRun_lt (least : Nat) {items : List Item} (some : items ≠ []) :
    (nextRun less least items).2.length < items.length := by
  have whole := (firstRun_perm less items).length_eq
  have run := List.length_pos_iff.mpr (firstRun_ne_nil less some)
  simp only [List.length_append] at whole
  simp only [nextRun, List.length_drop]
  omega

end Runs

namespace Merge

section Pacing

variable (direction : Direction) (before : Item → Item → Bool)

/-- How many items of a side come before the first item of the other. `before` tells whether an item of the
right side comes before one of the left. -/
def lead (side : Side) (merge : Merge Item) : Nat :=
  match side, merge.left, merge.right with
  | .left, left, other :: _ => leap direction (fun item => !before other item) left
  | .right, other :: _, right => leap direction (fun item => before item other) right
  | _, _, _ => 0

/-- Places the items of a side that come first, unless all is settled, and says how many there were. -/
def leapOn (side : Side) (merge : Merge Item) : Merge Item × Nat :=
  if merge.isSettled then (merge, 0)
  else
    let count := merge.lead direction before side
    (merge.take side count, count)

/-- The items that both sides place in a round of leaps, and the numbers of those that came first. -/
def round (merge : Merge Item) : Merge Item × Nat × Nat :=
  let first := opening direction
  let (opened, ahead) := merge.leapOn direction before first
  let (answered, behind) := (opened.moveOn first.other).leapOn direction before first.other
  (answered.moveOn first, ahead, behind)

/-- One step, or one round of leaps. -/
def step (merge : Merge Item) : Merge Item :=
  match merge.pace, merge.left, merge.right with
  | .leaps, _, _ =>
    let (next, ahead, behind) := merge.round direction before
    next.repaced (max ahead behind)
  | .steps lefts rights, item :: _, other :: _ =>
    if before other item then (merge.take .right 1).paced (rights + 1) (.steps 0 (rights + 1))
    else (merge.take .left 1).paced (lefts + 1) (.steps (lefts + 1) 0)
  | .steps _ _, _, _ => merge

/-- A leap leaves no more than there was. -/
theorem size_leapOn_le (side : Side) (merge : Merge Item) :
    (merge.leapOn direction before side).1.size ≤ merge.size := by
  unfold leapOn
  split
  · exact Nat.le_refl _
  · exact size_take_le merge side _

/-- A round of leaps leaves less than there was. -/
theorem size_round_lt {merge : Merge Item} (unsettled : merge.isSettled = false) :
    (merge.round direction before).1.size < merge.size := by
  let first := opening direction
  have opened : (merge.leapOn direction before first).1 =
      merge.take first (merge.lead direction before first) := by
    simp [leapOn, unsettled]
  calc (merge.round direction before).1.size
      ≤ (((merge.leapOn direction before first).1.moveOn first.other).leapOn direction before
          first.other).1.size := size_moveOn_le _ _
    _ ≤ ((merge.leapOn direction before first).1.moveOn first.other).size :=
        size_leapOn_le direction before _ _
    _ < merge.size := opened ▸ size_moveOn_take_lt first _ first.other unsettled

/-- A step leaves less than there was. -/
theorem size_step_lt {merge : Merge Item} (unsettled : merge.isSettled = false) :
    (merge.step direction before).size < merge.size := by
  unfold step
  split
  · simpa using size_round_lt direction before unsettled
  · split <;> simpa using size_take_lt _ Nat.one_pos unsettled
  · rename_i sides
    cases left : merge.left with
    | nil => simp [isSettled, left] at unsettled
    | cons item rest =>
      cases right : merge.right with
      | nil => simp [isSettled, right] at unsettled
      | cons other others => exact (sides _ _ _ _ left right).elim

/-- Goes on until all is settled. -/
def run (merge : Merge Item) : Merge Item :=
  if _settled : merge.isSettled then merge else run (merge.step direction before)
termination_by merge.size
decreasing_by exact size_step_lt direction before (Bool.eq_false_iff.mpr _settled)

end Pacing

/-- Merges two sides, of which the right one comes first. -/
def merged (direction : Direction) (before : Item → Item → Bool) (left right : List Item)
    (patience : Nat) : List Item × Nat :=
  let start : Merge Item := { placed := right.take 1, left, right := right.drop 1, patience }
  let final := start.run direction before
  (final.result, final.patience)

end Merge

variable (less : Item → Item → Bool)

/-- Merges the stretches of two runs that overlap: the shorter one is taken as the guide, from the front or
from the end. -/
def mergeMiddle (lower upper : List Item) (patience : Nat) : List Item × Nat :=
  if upper.isEmpty then (lower, patience)
  else if lower.length ≤ upper.length then Merge.merged .forward less lower upper patience
  else
    let (turned, patience) :=
      Merge.merged .backward (fun left right => less right left) upper.reverse lower.reverse patience
    (turned.reverse, patience)

/-- Merges two runs that follow each other, with what patience there is. -/
def mergeRuns (first second : List Item) (patience : Nat) : List Item × Nat :=
  match second with
  | [] => (first, patience)
  | head :: _ =>
    let before := leap .forward (fun item => !less head item) first
    match (first.drop before).getLast? with
    | none => (first ++ second, patience)
    | some last =>
      let behind := leap .backward (fun item => !less item last) second.reverse
      let kept := second.length - behind
      let (merged, patience) := mergeMiddle less (first.drop before) (second.take kept) patience
      (first.take before ++ merged ++ second.drop kept, patience)

/-- Merges the last run with those before it, as long as the borders have levels above the given one. The last run
comes first. -/
def settle (level : Nat) (last : Waiting Item) (earlier : List (Waiting Item)) (patience : Nat) :
    List (Waiting Item) × Nat :=
  match earlier with
  | [] => ([last], patience)
  | previous :: rest =>
    if level < last.level then
      let (merged, patience) := mergeRuns less previous.items last.items patience
      settle level ⟨previous.level, merged⟩ rest patience
    else (last :: previous :: rest, patience)

/-- Puts the run in front of a list, which begins at a position of the whole, to those that wait. -/
def enqueue (total position : Nat) (waiting : List (Waiting Item)) (run : List Item)
    (patience : Nat) : List (Waiting Item) × Nat :=
  match waiting with
  | [] => ([⟨0, run⟩], patience)
  | last :: earlier =>
    let doubled := 2 * position - last.items.length
    let border := level total doubled (doubled + last.items.length + run.length)
    let (settled, patience) := settle less border last earlier patience
    (⟨border, run⟩ :: settled, patience)

/-- Cuts what there is from a position on into runs. -/
def collect (total position : Nat) (items : List Item) (waiting : List (Waiting Item))
    (patience : Nat) : List (Waiting Item) × Nat :=
  if _done : items = [] then (waiting, patience)
  else
    let run := (nextRun less (leastRun total) items).1
    let (queued, patience) := enqueue less total position waiting run patience
    collect total (position + run.length) (nextRun less (leastRun total) items).2 queued patience
termination_by items.length
decreasing_by exact length_nextRun_lt less _ _done

/-- Merges the runs that are left, the last one coming first: the last two, or the two before the last when the
first of these is shorter than the last. -/
def conclude (runs : List (List Item)) (patience : Nat) : List Item :=
  match runs with
  | [] => []
  | [run] => run
  | [last, previous] => (mergeRuns less previous last patience).1
  | last :: previous :: early :: rest =>
    if early.length < last.length then
      let (merged, patience) := mergeRuns less early previous patience
      conclude (last :: merged :: rest) patience
    else
      let (merged, patience) := mergeRuns less previous last patience
      conclude (merged :: early :: rest) patience
termination_by runs.length

/-- The list in order; items that do not precede each other keep their places. -/
def sort (items : List Item) : List Item :=
  let (waiting, patience) := collect less items.length 0 items [] longLeap
  conclude less (waiting.map Waiting.items) patience

end Switchboard.Ranking
