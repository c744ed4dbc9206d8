import Switchboard.Proofs.Ranking.Sorting

/-!
# Arrangements of a list

An arrangement of a list has the same items and linked neighbours. Sorting gives one; a list may
have several. Where the comparison tells all different items apart, it has a single one exactly
when the comparison is transitive among its items, and exactly then does sorting not depend on the
order in which the list was given.

In one direction, transitivity carries links from neighbours to all pairs, and a list ordered in
all pairs is determined by its items. In the other, an item with a later one in front of which it
may not stand can be moved behind the last such item, which is another arrangement.
-/

namespace Switchboard.Ranking

variable {Item : Type} (less : Item → Item → Bool)

/-- Of two different items one precedes the other. -/
def TellsApart : Prop :=
  ∀ first second, less first second = false → less second first = false → first = second

/-- What an item precedes, it precedes together with all that follows, among the items of a
list. -/
def TransitiveOn (items : List Item) : Prop :=
  ∀ first ∈ items, ∀ second ∈ items, ∀ third ∈ items,
    less first second = true → less second third = true → less first third = true

variable {less}

/-- What is transitive on items is so on some of them. -/
theorem TransitiveOn.mono {items others : List Item} (transitive : TransitiveOn less items)
    (within : others ⊆ items) : TransitiveOn less others :=
  fun first isFirst second isSecond third isThird =>
    transitive first (within isFirst) second (within isSecond) third (within isThird)

/-- Links are transitive where the comparison is. -/
theorem TransitiveOn.linked (asymmetric : Asymmetric less) (apart : TellsApart less)
    {items : List Item} (transitive : TransitiveOn less items) {first second third : Item}
    (isFirst : first ∈ items) (isSecond : second ∈ items) (isThird : third ∈ items)
    (former : Linked less first second) (latter : Linked less second third) :
    Linked less first third := by
  by_cases precedes : less first second = true
  · by_cases follows : less second third = true
    · have whole := transitive first isFirst second isSecond third isThird precedes follows
      exact asymmetric first third whole
    · have same : second = third := apart second third (Bool.eq_false_iff.mpr follows) latter
      exact same ▸ former
  · have same : first = second := apart first second (Bool.eq_false_iff.mpr precedes) former
    exact same ▸ latter

/-- Transitivity carries links from neighbours to all pairs of a list. -/
theorem pairwise_of_linked (asymmetric : Asymmetric less) (apart : TellsApart less)
    {items : List Item} (transitive : TransitiveOn less items)
    (linked : items.IsChain (Linked less)) : items.Pairwise (Linked less) := by
  induction items with
  | nil => exact .nil
  | cons first rest ih =>
    have ordered := ih (transitive.mono (List.subset_cons_self first rest)) linked.tail
    refine List.pairwise_cons.mpr ⟨?_, ordered⟩
    cases rest with
    | nil => simp
    | cons second others =>
      have start : Linked less first second := linked.rel
      intro third isThird
      rcases List.mem_cons.mp isThird with rfl | isLater
      · exact start
      · have next := (List.pairwise_cons.mp ordered).1 third isLater
        exact transitive.linked asymmetric apart (by simp) (by simp) (by simp [isLater]) start next

/-- In a list that is ordered in all pairs, what precedes stands in front. -/
theorem index_lt_of_precedes (asymmetric : Asymmetric less) {items : List Item}
    (ordered : items.Pairwise (Linked less)) {i j : Nat} (iInside : i < items.length)
    (jInside : j < items.length) (precedes : less items[i] items[j] = true) : i < j := by
  rcases Nat.lt_trichotomy i j with before | same | behind
  · exact before
  · subst same
    have stays := asymmetric _ _ precedes
    simp [precedes] at stays
  · have stays : less items[i] items[j] = false :=
      List.pairwise_iff_getElem.mp ordered j i jInside iInside behind
    simp [precedes] at stays

/-- Where a list can be ordered in all pairs, the comparison is transitive among its items. -/
theorem transitiveOn_of_pairwise (asymmetric : Asymmetric less) (apart : TellsApart less)
    {items : List Item} (ordered : items.Pairwise (Linked less)) : TransitiveOn less items := by
  intro first isFirst second isSecond third isThird former latter
  obtain ⟨i, iInside, rfl⟩ := List.mem_iff_getElem.mp isFirst
  obtain ⟨j, jInside, rfl⟩ := List.mem_iff_getElem.mp isSecond
  obtain ⟨k, kInside, rfl⟩ := List.mem_iff_getElem.mp isThird
  have iBefore := index_lt_of_precedes asymmetric ordered iInside jInside former
  have jBefore := index_lt_of_precedes asymmetric ordered jInside kInside latter
  by_contra stays
  have stays := Bool.eq_false_iff.mpr stays
  have linked : less items[k] items[i] = false :=
    List.pairwise_iff_getElem.mp ordered i k iInside kInside (Nat.lt_trans iBefore jBefore)
  have same : items[i] = items[k] := apart _ _ stays linked
  rw [same] at former
  have impossible := asymmetric _ _ former
  simp [latter] at impossible

/-- A list that is ordered in all pairs is determined by its items. -/
theorem eq_of_perm_of_pairwise (apart : TellsApart less) {items others : List Item}
    (ordered : items.Pairwise (Linked less)) (otherOrdered : others.Pairwise (Linked less))
    (same : items.Perm others) : items = others :=
  List.Perm.eq_of_pairwise
    (fun first second _ _ former latter => apart first second latter former)
    ordered otherOrdered same

/-- What is transitive on the items sorts them so that all are in order, not neighbours only. -/
theorem sort_pairwise (asymmetric : Asymmetric less) (apart : TellsApart less) {items : List Item}
    (transitive : TransitiveOn less items) : (sort less items).Pairwise (Linked less) :=
  pairwise_of_linked asymmetric apart (transitive.mono (sort_perm less items).subset)
    (sort_linked less asymmetric items)

/-- Sorting does not depend on the order of the list. -/
theorem sort_eq_of_perm (asymmetric : Asymmetric less) (apart : TellsApart less)
    {items others : List Item} (transitive : TransitiveOn less items)
    (same : others.Perm items) : sort less others = sort less items := by
  have otherOrdered := sort_pairwise asymmetric apart (transitive.mono same.subset)
  have sorted : (sort less others).Perm (sort less items) :=
    (sort_perm less others).trans (same.trans (sort_perm less items).symm)
  exact eq_of_perm_of_pairwise apart otherOrdered (sort_pairwise asymmetric apart transitive) sorted

/-- Items may be dropped before sorting or after it. -/
theorem sort_filter (asymmetric : Asymmetric less) (apart : TellsApart less) {items : List Item}
    (transitive : TransitiveOn less items) (keep : Item → Bool) :
    sort less (items.filter keep) = (sort less items).filter keep := by
  have kept : items.filter keep ⊆ items := List.filter_sublist.subset
  have ordered : ((sort less items).filter keep).Pairwise (Linked less) :=
    (sort_pairwise asymmetric apart transitive).sublist List.filter_sublist
  have same : (sort less (items.filter keep)).Perm ((sort less items).filter keep) :=
    (sort_perm less _).trans ((sort_perm less items).filter keep).symm
  exact eq_of_perm_of_pairwise apart (sort_pairwise asymmetric apart (transitive.mono kept)) ordered
    same

/-- Moving the first item of a list to its end changes the list, unless all items are the first
one. -/
theorem eq_of_cons_eq_append {first : Item} {rest : List Item}
    (same : first :: rest = rest ++ [first]) : ∀ item ∈ rest, item = first := by
  induction rest with
  | nil => simp
  | cons second others ih =>
    obtain ⟨isFirst, moved⟩ := List.cons.inj same
    subst isFirst
    intro item isItem
    rcases List.mem_cons.mp isItem with rfl | isLater
    · rfl
    · exact ih moved item isLater

/-- An item and the rest of a list, cut behind the last item that it may not stand in front of. -/
theorem exists_last_refused {item : Item} {rest : List Item}
    (refused : ∃ other ∈ rest, ¬ Linked less item other) :
    ∃ former last latter, rest = former ++ last :: latter ∧ ¬ Linked less item last ∧
      ∀ other ∈ latter, Linked less item other := by
  induction rest with
  | nil => simp at refused
  | cons first others ih =>
    by_cases later : ∃ other ∈ others, ¬ Linked less item other
    · obtain ⟨former, last, latter, parts, isRefused, accepted⟩ := ih later
      exact ⟨first :: former, last, latter, by simp [parts], isRefused, accepted⟩
    · have accepted : ∀ other ∈ others, Linked less item other := by
        intro other isOther
        by_contra isRefused
        exact later ⟨other, isOther, isRefused⟩
      obtain ⟨other, isOther, isRefused⟩ := refused
      rcases List.mem_cons.mp isOther with rfl | isLater
      · exact ⟨[], other, others, rfl, isRefused, accepted⟩
      · exact absurd (accepted other isLater) isRefused

section Moving

variable {first last : Item} {front former latter : List Item}

/-- An item that is moved behind one that it may not stand in front of changes the list. -/
theorem moved_ne (asymmetric : Asymmetric less) (refused : ¬ Linked less first last) :
    former ++ last :: first :: latter ≠ first :: (former ++ last :: latter) := by
  intro same
  have whole : first :: (former ++ [last]) ++ latter = former ++ [last] ++ [first] ++ latter := by
    simpa using same.symm
  have alike : last = first :=
    eq_of_cons_eq_append (List.append_cancel_right whole) last (by simp)
  subst alike
  have stays : less last last = true := by simpa [Linked] using refused
  exact refused (asymmetric last last stays)

/-- An item may be moved behind one that it may not stand in front of, if it may stand in front of
all that follows and its place can be taken. -/
theorem isChain_moved (asymmetric : Asymmetric less)
    (linked : (front ++ first :: (former ++ last :: latter)).IsChain (Linked less))
    (passed : ∀ previous ∈ front, ∀ next ∈ former ++ [last], Linked less previous next)
    (refused : ¬ Linked less first last) (accepted : ∀ other ∈ latter, Linked less first other) :
    (front ++ (former ++ last :: first :: latter)).IsChain (Linked less) := by
  have own : (former ++ last :: latter).IsChain (Linked less) := linked.right_of_append.tail
  have rotated : (front ++ (former ++ [last])).IsChain (Linked less) := by
    have alone : (former ++ [last]).IsChain (Linked less) := by
      rw [List.append_cons] at own
      exact own.left_of_append
    refine linked.left_of_append.append alone fun previous isPrevious next isNext => ?_
    exact passed previous (List.mem_of_getLast? isPrevious) next (List.mem_of_head? isNext)
  have behind : (first :: latter).IsChain (Linked less) :=
    own.right_of_append.tail.cons fun next isNext => accepted next (List.mem_of_head? isNext)
  have follows : Linked less last first := by
    have precedes : less last first = true := by simpa [Linked] using refused
    exact asymmetric last first precedes
  have joined := rotated.append behind (by
    intro previous isPrevious next isNext
    have isLast : last = previous := by simpa using isPrevious
    have isFirst : first = next := by simpa using isNext
    exact isLast ▸ isFirst ▸ follows)
  simpa using joined

end Moving

/-- An arrangement that is not ordered in all pairs is not the only one.

The induction passes over the items that may stand in front of all later ones; these are `front`.
The first other item goes behind the last item that it may not stand in front of. -/
theorem exists_other_arrangement (asymmetric : Asymmetric less) (front items : List Item)
    (linked : (front ++ items).IsChain (Linked less))
    (passed : ∀ former ∈ front, ∀ latter ∈ items, Linked less former latter)
    (disordered : ¬ items.Pairwise (Linked less)) :
    ∃ others, others.Perm items ∧ others ≠ items ∧
      (front ++ others).IsChain (Linked less) := by
  induction items generalizing front with
  | nil => exact absurd .nil disordered
  | cons first rest ih =>
    by_cases refused : ∃ other ∈ rest, ¬ Linked less first other
    · obtain ⟨former, last, latter, rfl, isRefused, accepted⟩ := exists_last_refused refused
      refine ⟨former ++ last :: first :: latter, ?_, moved_ne asymmetric isRefused, ?_⟩
      · rw [List.append_cons former last latter, List.append_cons]
        exact List.perm_middle
      · refine isChain_moved asymmetric linked (fun previous isPrevious next isNext => ?_) isRefused
          accepted
        apply passed previous isPrevious
        rw [List.append_cons]
        exact List.mem_cons_of_mem first (List.mem_append_left latter isNext)
    · have accepted : ∀ other ∈ rest, Linked less first other := by
        intro other isOther
        by_contra isRefused
        exact refused ⟨other, isOther, isRefused⟩
      have stillDisordered : ¬ rest.Pairwise (Linked less) := fun ordered =>
        disordered (List.pairwise_cons.mpr ⟨accepted, ordered⟩)
      have passedOn : ∀ former ∈ front ++ [first], ∀ latter ∈ rest, Linked less former latter := by
        intro former isFormer latter isLatter
        rcases List.mem_append.mp isFormer with isFront | isFirst
        · exact passed former isFront latter (List.mem_cons_of_mem first isLatter)
        · rw [List.mem_singleton.mp isFirst]
          exact accepted latter isLatter
      obtain ⟨others, same, different, arranged⟩ :=
        ih (front ++ [first]) (by simpa using linked) passedOn stillDisordered
      exact ⟨first :: others, same.cons first, fun equal => different (List.cons.inj equal).2,
        by simpa using arranged⟩

/-- Sorting is independent of the order of the list exactly when the comparison is transitive
among its items. -/
theorem sort_invariant_iff (asymmetric : Asymmetric less) (apart : TellsApart less)
    (items : List Item) :
    (∀ others, others.Perm items → sort less others = sort less items) ↔
      TransitiveOn less items := by
  constructor
  · intro invariant
    have ordered : (sort less items).Pairwise (Linked less) := by
      by_contra disordered
      obtain ⟨others, same, different, arranged⟩ := exists_other_arrangement asymmetric []
        (sort less items) (sort_linked less asymmetric items) (by simp) disordered
      rw [List.nil_append] at arranged
      have sorted := invariant others (same.trans (sort_perm less items))
      rw [sort_of_linked less arranged] at sorted
      exact different sorted
    have transitive := transitiveOn_of_pairwise asymmetric apart ordered
    exact transitive.mono (sort_perm less items).symm.subset
  · intro transitive others same
    exact sort_eq_of_perm asymmetric apart transitive same

end Switchboard.Ranking
