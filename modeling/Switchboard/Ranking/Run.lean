import Switchboard.Ranking.Search
import Switchboard.Trace

/-!
# Runs

A run is a stretch of a list that is in order. The run at the front of a list either falls all the way, in
which case it is turned round, or never falls. A run that is too short is made longer by putting the items that
follow into it one by one, each at a place found by halving. To compare two items may fail, which ends it all.
-/

namespace Switchboard.Ranking

variable {Item Fault : Type} (less : Item → Item → Except Fault Bool)

/-- The rest of a falling run after `last`, and what follows the run. -/
def fallingRunM (last : Item) : List Item → Except Fault (List Item × List Item)
  | [] => .ok ([], [])
  | item :: rest => do
    if ← less item last then
      let (run, after) ← fallingRunM item rest
      return (item :: run, after)
    else return ([], item :: rest)

/-- The rest of a run that never falls after `last`, and what follows the run. -/
def risingRunM (last : Item) : List Item → Except Fault (List Item × List Item)
  | [] => .ok ([], [])
  | item :: rest => do
    if ← less item last then return ([], item :: rest)
    else
      let (run, after) ← risingRunM item rest
      return (item :: run, after)

/-- The run at the front of a list, in rising order, and what follows it. -/
def firstRunM : List Item → Except Fault (List Item × List Item)
  | [] => .ok ([], [])
  | [item] => .ok ([item], [])
  | first :: second :: rest => do
    if ← less second first then
      let (run, after) ← fallingRunM less second rest
      return ((first :: second :: run).reverse, after)
    else
      let (run, after) ← risingRunM less second rest
      return (first :: second :: run, after)

/-- The place for an item in a run: after every item that it does not precede, when the run is in order. -/
def placeM (item : Item) (run : List Item) : Except Fault Nat :=
  searchM .forward (fun other => (less item other).map not) run 0 run.length

/-- Puts an item into a run. -/
def insertItemM (run : List Item) (item : Item) : Except Fault (List Item) := do
  return run.insertIdx (← placeM less item run) item

/-- The run at the front of a list, made as long as `least` if there are enough items, and what follows. -/
def nextRunM (least : Nat) (items : List Item) : Except Fault (List Item × List Item) := do
  let (run, rest) ← firstRunM less items
  let missing := least - run.length
  return (← (rest.take missing).foldlM (insertItemM less) run, rest.drop missing)

variable {less}

/-- What follows a falling run is no longer than what the run was sought in. -/
theorem length_fallingRunM_le {last : Item} {items run after : List Item}
    (found : fallingRunM less last items = .ok (run, after)) : after.length ≤ items.length := by
  induction items generalizing last run with
  | nil =>
    obtain ⟨rfl, rfl⟩ : [] = run ∧ [] = after := by simpa [fallingRunM] using found
    exact Nat.le_refl _
  | cons item rest ih =>
    rw [fallingRunM, bind_eq_ok_iff] at found
    obtain ⟨falls, -, found⟩ := found
    cases falls with
    | true =>
      obtain ⟨⟨longer, others⟩, further, same⟩ := bind_eq_ok_iff.mp found
      obtain ⟨rfl, rfl⟩ : item :: longer = run ∧ others = after := by simpa using same
      exact Nat.le_succ_of_le (ih further)
    | false =>
      obtain ⟨rfl, rfl⟩ : [] = run ∧ item :: rest = after := by simpa using found
      exact Nat.le_refl _

/-- What follows a run that never falls is no longer than what the run was sought in. -/
theorem length_risingRunM_le {last : Item} {items run after : List Item}
    (found : risingRunM less last items = .ok (run, after)) : after.length ≤ items.length := by
  induction items generalizing last run with
  | nil =>
    obtain ⟨rfl, rfl⟩ : [] = run ∧ [] = after := by simpa [risingRunM] using found
    exact Nat.le_refl _
  | cons item rest ih =>
    rw [risingRunM, bind_eq_ok_iff] at found
    obtain ⟨falls, -, found⟩ := found
    cases falls with
    | true =>
      obtain ⟨rfl, rfl⟩ : [] = run ∧ item :: rest = after := by simpa using found
      exact Nat.le_refl _
    | false =>
      obtain ⟨⟨longer, others⟩, further, same⟩ := bind_eq_ok_iff.mp found
      obtain ⟨rfl, rfl⟩ : item :: longer = run ∧ others = after := by simpa using same
      exact Nat.le_succ_of_le (ih further)

/-- What follows the first run of a list is shorter than the list. -/
theorem length_firstRunM_lt {items run after : List Item} (some : items ≠ [])
    (found : firstRunM less items = .ok (run, after)) : after.length < items.length := by
  match items with
  | [] => exact absurd rfl some
  | [item] =>
    obtain ⟨-, rfl⟩ : [item] = run ∧ [] = after := by simpa [firstRunM] using found
    exact Nat.one_pos
  | first :: second :: rest =>
    rw [firstRunM, bind_eq_ok_iff] at found
    obtain ⟨falls, -, found⟩ := found
    cases falls with
    | true =>
      obtain ⟨⟨longer, others⟩, further, same⟩ := bind_eq_ok_iff.mp found
      obtain ⟨-, rfl⟩ : (first :: second :: longer).reverse = run ∧ others = after := by
        simpa using same
      exact Nat.lt_succ_of_le (Nat.le_succ_of_le (length_fallingRunM_le further))
    | false =>
      obtain ⟨⟨longer, others⟩, further, same⟩ := bind_eq_ok_iff.mp found
      obtain ⟨-, rfl⟩ : first :: second :: longer = run ∧ others = after := by simpa using same
      exact Nat.lt_succ_of_le (Nat.le_succ_of_le (length_risingRunM_le further))

end Switchboard.Ranking
