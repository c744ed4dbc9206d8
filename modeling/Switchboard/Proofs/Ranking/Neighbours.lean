import Mathlib.Data.List.Chain
import Switchboard.Proofs.Ranking.Answering
import Switchboard.Proofs.Ranking.Labels

/-!
# Neighbours have been compared

Where a comparison may fail, a sorted list still tells something of its neighbours: they were compared, the latter
with the former, and the latter does not precede (`sortM_follows`). A list of which this holds is sorted by asking
just that, so that sorting what was sorted has a result, and does not change it (`sortM_of_follows`).

That two neighbours were compared is shown by what else the sort would have done. Every comparison with the same
answers gives the same list; so if these two had not been compared, they could as well precede each other the other
way round, and would not be neighbours. The items are told apart by their places for that, since the list may
hold one item twice.
-/

namespace Switchboard.Ranking

variable {Item Fault : Type} {less? : Item → Item → Except Fault Bool}

/-- Whether a comparison that has an answer has one the other way round as well, and two items do not precede
each other. -/
def Turns (less? : Item → Item → Except Fault Bool) : Prop :=
  ∀ first second before, less? first second = .ok before →
    ∃ behind, less? second first = .ok behind ∧ (before = true → behind = false)

/-- Whether an item was compared with the one in front of it and does not precede it. -/
def Follows (less? : Item → Item → Except Fault Bool) (item next : Item) : Prop :=
  less? next item = .ok false

section Comparing

/-- A comparison of placed items by a comparison that may fail. Where it does fail, only the item at one place
precedes the one at another. -/
def guessed (less? : Item → Item → Except Fault Bool) (place other : Nat)
    (first second : Item × Nat) : Bool :=
  match less? first.1 second.1 with
  | .ok before => before
  | .error _ => first.2 = place && second.2 = other

/-- A guess about two places is asymmetric where the comparison turns round. -/
theorem guessed_asymmetric (turns : Turns less?) {place other : Nat} (apart : place ≠ other) :
    Asymmetric (guessed less? place other) := by
  intro first second before
  cases answer : less? first.1 second.1 with
  | ok precedes =>
    obtain ⟨behind, turned, opposite⟩ := turns _ _ _ answer
    have isBefore : precedes = true := by simpa [guessed, answer] using before
    simp [guessed, turned, opposite isBefore]
  | error fault =>
    obtain ⟨isPlace, isOther⟩ : first.2 = place ∧ second.2 = other := by
      simpa [guessed, answer] using before
    cases turned : less? second.1 first.1 with
    | ok precedes =>
      obtain ⟨behind, answered, -⟩ := turns _ _ _ turned
      simp [answer] at answered
    | error fault => simp [guessed, turned, isPlace, isOther, apart.symm]

/-- A guess is right wherever the comparison answers. -/
theorem guessed_yields (place other : Nat) :
    Answers True (fun _ => True) (byLabel Prod.fst less?) (guessed less? place other) := by
  intro first second _ _
  cases answer : less? first.1 second.1 with
  | ok before => exact .inl (by simp [byLabel, guessed, answer])
  | error fault => exact .inr ⟨trivial, fault, answer⟩

end Comparing

/-- The places of the items of a list that is sorted together with them are different ones. -/
theorem nodup_places {less : Item × Nat → Item × Nat → Bool} {items : List Item} :
    ((sort less items.zipIdx).map Prod.snd).Nodup := by
  rw [((sort_perm less items.zipIdx).map Prod.snd).nodup_iff, List.zipIdx_map_snd]
  exact List.nodup_range'

/-- Neighbours in a sorted list were compared, and the latter does not precede the former. -/
theorem sortM_follows (turns : Turns less?) {items sorted : List Item}
    (ended : sortM less? items = .ok sorted) : sorted.IsChain (Follows less?) := by
  have placed := sortM_map Prod.fst less? items.zipIdx
  rw [List.zipIdx_map_fst, ended] at placed
  obtain ⟨order, sorts, rfl⟩ : ∃ order, sortM (byLabel Prod.fst less?) items.zipIdx = .ok order ∧
      order.map Prod.fst = sorted := by
    cases sorts : sortM (byLabel Prod.fst less?) items.zipIdx with
    | error fault => simp [sorts] at placed
    | ok order => exact ⟨order, rfl, by simpa [sorts] using placed.symm⟩
  have made : ∀ place other, order = sort (guessed less? place other) items.zipIdx :=
    fun place other => (sortM_yields (guessed_yields place other) fun _ _ => trivial).eq_of_eq_ok sorts
  rw [List.isChain_map, List.isChain_iff_forall_rel_of_append_cons_cons]
  intro item next former latter parts
  have apart : next.2 ≠ item.2 := by
    have places : (order.map Prod.snd).Nodup := made 0 0 ▸ nodup_places
    rw [parts] at places
    simp only [List.map_append, List.map_cons, List.nodup_append, List.nodup_cons, List.mem_cons,
      not_or] at places
    exact Ne.symm places.2.1.1.1
  -- The items are neighbours also where they are guessed to stand the other way round.
  have linked : order.IsChain (Linked (guessed less? next.2 item.2)) :=
    made next.2 item.2 ▸ sort_linked _ (guessed_asymmetric turns apart) items.zipIdx
  have stays : guessed less? next.2 item.2 next item = false :=
    List.isChain_iff_forall_rel_of_append_cons_cons.mp linked parts
  cases answer : less? next.1 item.1 with
  | ok before => simpa [guessed, Follows, answer] using stays
  | error fault => simp [guessed, answer] at stays

section Sorted

/-- A list in which every item follows the one in front of it is one run that never falls. -/
theorem risingRunM_of_follows {last : Item} {items : List Item}
    (follows : (last :: items).IsChain (Follows less?)) :
    risingRunM less? last items = .ok (items, []) := by
  induction items generalizing last with
  | nil => rfl
  | cons item rest ih =>
    obtain ⟨rises, others⟩ := List.isChain_cons_cons.mp follows
    have rises : less? item last = .ok false := rises
    rw [risingRunM, rises, ih others]
    rfl

/-- Items of which each follows the one before are one run. -/
theorem nextRunM_of_follows (least : Nat) {items : List Item}
    (follows : items.IsChain (Follows less?)) : nextRunM less? least items = .ok (items, []) := by
  have whole : firstRunM less? items = .ok (items, []) := by
    match items with
    | [] => rfl
    | [item] => rfl
    | first :: second :: rest =>
      obtain ⟨rises, others⟩ := List.isChain_cons_cons.mp follows
      have rises : less? second first = .ok false := rises
      rw [firstRunM, rises, risingRunM_of_follows others]
      rfl
  simp [nextRunM, whole, bind, Except.bind, pure, Except.pure]

/-- A list in which every item follows the one in front of it is sorted already. -/
theorem sortM_of_follows {items : List Item} (follows : items.IsChain (Follows less?)) :
    sortM less? items = .ok items := by
  have ends : ∀ total position waiting patience, collectM less? total position [] waiting patience =
      .ok (waiting, patience) := fun _ _ _ _ => by rw [collectM, dif_pos rfl]
  by_cases none : items = []
  · subst none
    rw [sortM, ends]
    exact concludeM.eq_1 less? longLeap
  · have collected : collectM less? items.length 0 items [] longLeap = .ok ([⟨0, items⟩], longLeap) := by
      rw [collectM, dif_neg none]
      split
      next fault failed => simp [nextRunM_of_follows _ follows] at failed
      next run rest gone =>
        obtain ⟨rfl, rfl⟩ : items = run ∧ [] = rest := by
          simpa [nextRunM_of_follows _ follows] using gone
        exact ends _ _ _ _
    rw [sortM, collected]
    exact concludeM.eq_2 less? longLeap items

end Sorted

end Switchboard.Ranking
