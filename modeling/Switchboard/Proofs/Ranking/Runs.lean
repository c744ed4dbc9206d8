import Mathlib.Data.List.Chain
import Switchboard.Proofs.Ranking.Boundary

/-!
# Runs are linked

Two neighbours of a list are linked when the second does not precede the first. In a run that a
list begins with, and in a run that an item was put into, all neighbours are linked, for every
comparison in which no two items precede each other. Nothing is said about items further apart:
that would take a transitive comparison.

Runs are made of the items of the list. The statements are about what the first run and the rest
of the list hold together, since only their order within the run is changed.
-/

namespace Switchboard.Ranking

variable {Item : Type} (less : Item → Item → Bool)

/-- An item may stand right before another that does not precede it. -/
def Linked (item next : Item) : Prop :=
  less next item = false

/-- No two items precede each other. -/
def Asymmetric : Prop :=
  ∀ first second, less first second = true → less second first = false

/-- The items of a falling run precede the ones before them. -/
theorem fallingRun_falls (last : Item) (items : List Item) :
    (last :: (fallingRun less last items).1).IsChain
      (fun first second => less second first = true) := by
  induction items generalizing last with
  | nil => exact .singleton last
  | cons item rest ih =>
    by_cases falls : less item last = true
    · simpa [fallingRun, falls, List.isChain_cons_cons] using ih item
    · simp [fallingRun, falls]

/-- A rising run is in order. -/
theorem risingRun_linked (last : Item) (items : List Item) :
    (last :: (risingRun less last items).1).IsChain (Linked less) := by
  induction items generalizing last with
  | nil => exact .singleton last
  | cons item rest ih =>
    by_cases falls : less item last = true
    · simp [risingRun, falls]
    · simpa [risingRun, falls, List.isChain_cons_cons, Linked] using ih item

/-- The first run of a list is linked. A falling run is so once it is turned round, because of two
items that follow each other in it the second precedes the first, and then the first does not
precede the second. -/
theorem firstRun_linked (asymmetric : Asymmetric less) (items : List Item) :
    (firstRun less items).1.IsChain (Linked less) := by
  match items with
  | [] => exact .nil
  | [item] => exact .singleton item
  | first :: second :: rest =>
    by_cases falls : less second first = true
    · have falling := fallingRun_falls less second rest
      have whole : (first :: second :: (fallingRun less second rest).1).IsChain
          (fun first second => less second first = true) :=
        falling.cons_cons falls
      simp only [firstRun, falls, if_true]
      rw [List.isChain_reverse]
      exact whole.imp fun former latter precedes => asymmetric latter former precedes
    · have rising := risingRun_linked less second rest
      simp only [firstRun, falls]
      exact rising.cons_cons (Bool.eq_false_iff.mpr falls)

/-- A run that never falls is the first run as a whole. -/
theorem risingRun_of_linked {last : Item} {items : List Item}
    (linked : (last :: items).IsChain (Linked less)) : risingRun less last items = (items, []) := by
  induction items generalizing last with
  | nil => rfl
  | cons item rest ih =>
    obtain ⟨rises, others⟩ := List.isChain_cons_cons.mp linked
    have rises : less item last = false := rises
    simp [risingRun, rises, ih others]

/-- Items in order are one run. -/
theorem firstRun_of_linked {items : List Item} (linked : items.IsChain (Linked less)) :
    firstRun less items = (items, []) := by
  match items with
  | [] => rfl
  | [item] => rfl
  | first :: second :: rest =>
    obtain ⟨rises, others⟩ := List.isChain_cons_cons.mp linked
    have rises : less second first = false := rises
    simp [firstRun, rises, risingRun_of_linked less others]

/-- An item is put between the items in front of a place and those behind it. -/
theorem insertIdx_eq_append {items : List Item} {place : Nat} (inside : place ≤ items.length)
    (item : Item) : items.insertIdx place item = items.take place ++ item :: items.drop place := by
  induction place generalizing items with
  | zero => simp
  | succ place ih =>
    cases items with
    | nil => simp at inside
    | cons first rest => simp [ih (Nat.le_of_succ_le_succ inside)]

/-- An item's place divides what it does not go before from what it does. -/
theorem place_boundary (item : Item) (run : List Item) :
    Boundary (fun other => !less item other) run (place less item run) :=
  search_boundary .forward _ run 0 run.length (Nat.zero_le _) (Nat.le_refl _) (by simp) (by simp)

/-- To put an item into its place keeps all items. -/
theorem insertItem_perm (run : List Item) (item : Item) :
    (insertItem less run item).Perm (item :: run) :=
  List.perm_insertIdx item run (place_boundary less item run).inside

/-- An item that is put into a linked run is linked to both of its neighbours: it was compared
with them. -/
theorem insertItem_linked (asymmetric : Asymmetric less) {run : List Item}
    (linked : run.IsChain (Linked less)) (item : Item) :
    (insertItem less run item).IsChain (Linked less) := by
  have found := place_boundary less item run
  rw [insertItem, insertIdx_eq_append found.inside]
  refine (linked.take _).append ((linked.drop _).cons ?_) ?_
  · intro next isNext
    have precedes : less item next = true := by simpa using found.behind next isNext
    exact asymmetric item next precedes
  · intro last isLast next isNext
    have same : item = next := by simpa using isNext
    subst same
    simpa [Linked] using found.before last isLast

/-- To put items into their places keeps all of them. -/
theorem insertItems_perm (run items : List Item) :
    (items.foldl (insertItem less) run).Perm (run ++ items) := by
  induction items generalizing run with
  | nil => simp
  | cons item rest ih =>
    have inserted : (insertItem less run item ++ rest).Perm (item :: run ++ rest) :=
      (insertItem_perm less run item).append_right rest
    exact (ih _).trans (inserted.trans List.perm_middle.symm)

/-- A run is in order after items were put into their places. -/
theorem insertItems_linked (asymmetric : Asymmetric less) {run : List Item}
    (linked : run.IsChain (Linked less)) (items : List Item) :
    (items.foldl (insertItem less) run).IsChain (Linked less) := by
  induction items generalizing run with
  | nil => exact linked
  | cons item rest ih => exact ih (insertItem_linked less asymmetric linked item)

/-- The next run and what follows it hold the items of the list. -/
theorem nextRun_perm (least : Nat) (items : List Item) :
    ((nextRun less least items).1 ++ (nextRun less least items).2).Perm items := by
  obtain ⟨run, rest, parts⟩ : ∃ run rest, firstRun less items = (run, rest) := ⟨_, _, rfl⟩
  have whole := firstRun_perm less items
  rw [parts] at whole
  simp only [nextRun, parts]
  refine ((insertItems_perm less run _).append_right _).trans ?_
  rw [List.append_assoc, List.take_append_drop]
  exact whole

/-- The next run is in order. -/
theorem nextRun_linked (asymmetric : Asymmetric less) (least : Nat) (items : List Item) :
    (nextRun less least items).1.IsChain (Linked less) :=
  insertItems_linked less asymmetric (firstRun_linked less asymmetric items) _

/-- A linked list is one run. -/
theorem nextRun_of_linked (least : Nat) {items : List Item} (linked : items.IsChain (Linked less)) :
    nextRun less least items = (items, []) := by
  simp [nextRun, firstRun_of_linked less linked]

end Switchboard.Ranking
