import Switchboard.Ranking.Merge
import Switchboard.Ranking.Run

/-!
# Sorting with a comparison that need not be an order

The list is cut into runs from the front, short ones being made longer, and the runs wait to be merged with
their neighbours. The border between two runs has a level: runs are merged across the borders of higher levels
before those of lower ones, so that the runs that are merged are about equally long. Whatever the levels are,
only neighbours are merged.

Items end up next to each other only after having been compared, which is what remains true when the comparison
is not transitive. The list is not sorted where one of the comparisons that are made fails.
-/

namespace Switchboard.Ranking

variable {Item Fault : Type}

/-- The least length of the runs of a list: its length as long as that is below 64, with all digits but the first
six cut off and rounded up. -/
def leastRun (length : Nat) (cut : Nat := 0) : Nat :=
  if length < 64 then length + cut else leastRun (length / 2) (max cut (length % 2))
termination_by length

/-- The number of the first binary digit after the point in which two fractions differ, the second being the
greater: halves of `first` and `second`, out of a total. -/
def level (total first second : Nat) : Nat :=
  if _close : first < second ∧ second - first < total ∧ first / total = second / total then
    level total (2 * first) (2 * second) + 1
  else 1
termination_by total - (second - first)

/-- A run that waits, and the level of its border with the one before it. -/
structure Waiting (Item : Type) where
  level : Nat
  items : List Item

variable (less : Item → Item → Except Fault Bool)

/-- Merges the last run with those before it, as long as the borders have levels above the given one. The last run
comes first. -/
def settleM (level : Nat) (last : Waiting Item) (earlier : List (Waiting Item)) (patience : Nat) :
    Except Fault (List (Waiting Item) × Nat) :=
  match earlier with
  | [] => .ok ([last], patience)
  | previous :: rest =>
    if level < last.level then do
      let (merged, patience) ← mergeRunsM less previous.items last.items patience
      settleM level ⟨previous.level, merged⟩ rest patience
    else .ok (last :: previous :: rest, patience)

/-- Puts the run in front of a list, which begins at a position of the whole, to those that wait. -/
def enqueueM (total position : Nat) (waiting : List (Waiting Item)) (run : List Item)
    (patience : Nat) : Except Fault (List (Waiting Item) × Nat) :=
  match waiting with
  | [] => .ok ([⟨0, run⟩], patience)
  | last :: earlier => do
    let doubled := 2 * position - last.items.length
    let border := level total doubled (doubled + last.items.length + run.length)
    let (settled, patience) ← settleM less border last earlier patience
    return (⟨border, run⟩ :: settled, patience)

variable {less} in

/-- What follows the next run of a list is shorter than the list. -/
theorem length_nextRunM_lt {least : Nat} {items run rest : List Item} (some : items ≠ [])
    (cut : nextRunM less least items = .ok (run, rest)) : rest.length < items.length := by
  obtain ⟨⟨first, after⟩, found, cut⟩ := bind_eq_ok_iff.mp cut
  obtain ⟨longer, -, same⟩ := bind_eq_ok_iff.mp cut
  obtain ⟨-, rfl⟩ : longer = run ∧ after.drop (least - first.length) = rest := by simpa using same
  have shorter := length_firstRunM_lt some found
  rw [List.length_drop]
  omega

/-- Cuts what there is from a position on into runs. -/
def collectM (total position : Nat) (items : List Item) (waiting : List (Waiting Item))
    (patience : Nat) : Except Fault (List (Waiting Item) × Nat) :=
  if _done : items = [] then .ok (waiting, patience)
  else
    match _cut : nextRunM less (leastRun total) items with
    | .error fault => .error fault
    | .ok (run, rest) => do
      let (queued, patience) ← enqueueM less total position waiting run patience
      collectM total (position + run.length) rest queued patience
termination_by items.length
decreasing_by exact length_nextRunM_lt _done _cut

/-- Merges the runs that are left, the last one coming first: the last two, or the two before the last when the
first of these is shorter than the last. -/
def concludeM (runs : List (List Item)) (patience : Nat) : Except Fault (List Item) :=
  match runs with
  | [] => .ok []
  | [run] => .ok run
  | [last, previous] => do return (← mergeRunsM less previous last patience).1
  | last :: previous :: early :: rest =>
    if early.length < last.length then do
      let (merged, patience) ← mergeRunsM less early previous patience
      concludeM (last :: merged :: rest) patience
    else do
      let (merged, patience) ← mergeRunsM less previous last patience
      concludeM (merged :: early :: rest) patience
termination_by runs.length

/-- The list in order; items that do not precede each other keep their places. -/
def sortM (items : List Item) : Except Fault (List Item) := do
  let (waiting, patience) ← collectM less items.length 0 items [] longLeap
  concludeM less (waiting.map Waiting.items) patience

end Switchboard.Ranking
