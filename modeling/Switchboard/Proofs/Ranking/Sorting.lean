import Switchboard.Proofs.Ranking.Merging

/-!
# Sorting links neighbours

Sorting a list gives its items in an order in which neighbours are linked: of two items next to
each other the second does not precede the first. This holds of every comparison in which no two
items precede each other. It is all that can be said of a comparison that is not transitive, and
it makes the result stay as it is when it is sorted again, since a linked list is a single run.

The order in which runs are merged plays no part here. The levels of borders decide it, and the
statements hold whatever they are.
-/

namespace Switchboard.Ranking

variable {Item : Type} (less : Item → Item → Bool)

/-- The first item of the front of a list is the first item of the list. -/
theorem head_eq_of_take {head item : Item} {rest : List Item} {count : Nat}
    (isFirst : item ∈ ((head :: rest).take count).head?) : head = item := by
  rw [List.head?_take] at isFirst
  split at isFirst
  · simp at isFirst
  · simpa using isFirst

/-- What is left of two linked runs, once what is in place is taken away at both ends, overlaps.
The four neighbours of the two cuts were compared by the leaps that found them. -/
theorem overlap_of_leaps (asymmetric : Asymmetric less) {first : List Item} {head last : Item}
    {rest : List Item} (firstLinked : first.IsChain (Linked less))
    (secondLinked : (head :: rest).IsChain (Linked less)) {before behind : Nat}
    (start : Boundary (fun item => !less head item) first before)
    (isLast : (first.drop before).getLast? = some last)
    (stop : Boundary (fun item => !less item last) (head :: rest).reverse behind) :
    Overlap (Linked less) (first.take before) (first.drop before)
      ((head :: rest).take ((head :: rest).length - behind))
      ((head :: rest).drop ((head :: rest).length - behind)) where
  first := by simpa using firstLinked
  second := by simpa only [List.take_append_drop] using secondLinked
  frontUpper := by
    intro previous isPrevious item isItem
    obtain rfl := head_eq_of_take isItem
    simpa [Linked] using start.before previous isPrevious
  upperLower := by
    intro item isItem next isNext
    obtain rfl := head_eq_of_take isItem
    have precedes : less head next = true := by simpa using start.behind next isNext
    exact asymmetric head next precedes
  finalLast := by
    intro final isFinal item isItem
    have same : last = item := by simpa [isLast] using isItem
    subst same
    have turned : final ∈ ((head :: rest).reverse.drop behind).head? := by
      rw [List.drop_reverse, List.head?_reverse]
      exact isFinal
    have precedes : less final last = true := by simpa using stop.behind final turned
    exact asymmetric final last precedes
  lowerBack := by
    intro item isItem next isNext
    have same : last = item := by simpa [isLast] using isItem
    subst same
    have turned : next ∈ ((head :: rest).reverse.take behind).getLast? := by
      rw [List.take_reverse, List.getLast?_reverse]
      exact isNext
    simpa [Linked] using stop.before next turned

section Middle

variable {first : List Item} {head last : Item} {rest : List Item} {before behind : Nat}
  (leapt : leap .forward (fun item => !less head item) first = before)

include leapt in

/-- Where all of the first run is in place nothing is merged. -/
theorem mergeRuns_of_none (none : (first.drop before).getLast? = none) (patience : Nat) :
    (mergeRuns less first (head :: rest) patience).1 = first ++ head :: rest := by
  simp only [mergeRuns, leapt, none]

include leapt in

/-- Else the two runs are in place at their ends, and only the middle is merged. -/
theorem mergeRuns_of_some (some : (first.drop before).getLast? = some last)
    (leaptBack : leap .backward (fun item => !less item last) (head :: rest).reverse = behind)
    (patience : Nat) :
    (mergeRuns less first (head :: rest) patience).1 =
      first.take before ++
        (mergeMiddle less (first.drop before) ((head :: rest).take ((head :: rest).length - behind))
          patience).1 ++
        (head :: rest).drop ((head :: rest).length - behind) := by
  simp only [mergeRuns, leapt, some, leaptBack]

/-- The merged middle has the items of the two stretches. -/
theorem mergeMiddle_perm (lower upper : List Item) (patience : Nat) :
    (mergeMiddle less lower upper patience).1.Perm (lower ++ upper) := by
  unfold mergeMiddle
  split
  next none =>
    rw [List.isEmpty_iff.mp none, List.append_nil]
  next =>
    split
    · exact (Merge.merged_perm .forward _ _ _ patience).trans List.perm_append_comm
    · have turned := Merge.merged_perm .backward (fun left right => less right left) upper.reverse
        lower.reverse patience
      rw [← List.reverse_append] at turned
      have straight := (List.reverse_perm _).trans (turned.trans (List.reverse_perm _))
      exact straight.trans List.perm_append_comm

/-- The merged middle links the ends of two runs that overlap. -/
theorem Overlap.mergeMiddle_linked (asymmetric : Asymmetric less) {front lower upper back : List Item}
    (overlap : Overlap (Linked less) front lower upper back) (lowerSome : lower ≠ [])
    (patience : Nat) :
    (front ++ (mergeMiddle less lower upper patience).1 ++ back).IsChain (Linked less) := by
  unfold mergeMiddle
  split
  next none =>
    refine overlap.first.append overlap.second.right_of_append ?_
    intro item isItem next isNext
    rw [List.getLast?_append_of_ne_nil _ lowerSome] at isItem
    exact overlap.lowerBack item isItem next isNext
  next some =>
    have upperSome : upper ≠ [] := by simpa only [List.isEmpty_iff] using some
    split
    · exact overlap.merged .forward (agrees_linked less asymmetric) lowerSome upperSome patience
    · have turned := overlap.turned.merged .backward (agrees_turned less asymmetric)
        (by simpa using upperSome) (by simpa using lowerSome) patience
      rw [← List.isChain_reverse] at turned
      simpa using turned

end Middle

/-- Two runs merged have the items of both. -/
theorem mergeRuns_perm (first second : List Item) (patience : Nat) :
    (mergeRuns less first second patience).1.Perm (first ++ second) := by
  cases second with
  | nil => simp [mergeRuns]
  | cons head rest =>
    cases isLast : (first.drop (leap .forward (fun item => !less head item) first)).getLast? with
    | none => rw [mergeRuns_of_none less rfl isLast]
    | some last =>
      rw [mergeRuns_of_some less rfl isLast rfl]
      generalize leap .forward (fun item => !less head item) first = before
      generalize (head :: rest).length -
        leap .backward (fun item => !less item last) (head :: rest).reverse = kept
      have parts : first.take before ++ (first.drop before ++ (head :: rest).take kept) ++
          (head :: rest).drop kept = first ++ head :: rest := by
        rw [← List.append_assoc, List.take_append_drop, List.append_assoc, List.take_append_drop]
      rw [← parts]
      exact ((mergeMiddle_perm less _ _ patience).append_left _).append_right _

/-- Two runs merged have the items of both, whichever is named first. -/
theorem mergeRuns_perm_swapped (first second : List Item) (patience : Nat) :
    (mergeRuns less first second patience).1.Perm (second ++ first) :=
  (mergeRuns_perm less first second patience).trans List.perm_append_comm

/-- Merging two linked runs gives a linked run. -/
theorem mergeRuns_linked (asymmetric : Asymmetric less) {first second : List Item}
    (firstLinked : first.IsChain (Linked less)) (secondLinked : second.IsChain (Linked less))
    (patience : Nat) : (mergeRuns less first second patience).1.IsChain (Linked less) := by
  cases second with
  | nil => exact firstLinked
  | cons head rest =>
    have start := leap_boundary .forward (fun item => !less head item) first
    generalize leapt : leap .forward (fun item => !less head item) first = before at start
    cases isLast : (first.drop before).getLast? with
    | none =>
      have whole : first.take before = first :=
        List.take_of_length_le (List.drop_eq_nil_iff.mp (List.getLast?_eq_none_iff.mp isLast))
      rw [mergeRuns_of_none less leapt isLast]
      refine firstLinked.append secondLinked ?_
      intro last isLast item isItem
      have same : head = item := by simpa using isItem
      subst same
      simpa [Linked] using start.before last (whole.symm ▸ isLast)
    | some last =>
      have stop := leap_boundary .backward (fun item => !less item last) (head :: rest).reverse
      rw [mergeRuns_of_some less leapt isLast rfl]
      have lowerSome : first.drop before ≠ [] := by
        intro empty
        simp [empty] at isLast
      have overlap := overlap_of_leaps less asymmetric firstLinked secondLinked start isLast stop
      exact overlap.mergeMiddle_linked less asymmetric lowerSome patience

/-!
The runs that wait hold what was cut off the list so far, and each of them is linked.
-/

/-- What the runs that wait hold together. -/
def held (waiting : List (Waiting Item)) : List Item :=
  (waiting.map Waiting.items).flatten

/-- All runs that wait are linked. -/
def AllLinked (waiting : List (Waiting Item)) : Prop :=
  ∀ run ∈ waiting, run.items.IsChain (Linked less)

/-- To merge waiting runs keeps all items. -/
theorem settle_perm (level : Nat) (last : Waiting Item) (earlier : List (Waiting Item))
    (patience : Nat) :
    (held (settle less level last earlier patience).1).Perm (last.items ++ held earlier) := by
  induction earlier generalizing last patience with
  | nil => simp [settle, held]
  | cons previous rest ih =>
    simp only [settle]
    split
    · refine (ih _ _).trans ?_
      have merged := mergeRuns_perm_swapped less previous.items last.items patience
      simpa [held] using merged.append_right (held rest)
    · simp [held]

/-- Waiting runs are in order after they were merged down to a level. -/
theorem settle_linked (asymmetric : Asymmetric less) (level : Nat) {last : Waiting Item}
    {earlier : List (Waiting Item)} (lastLinked : last.items.IsChain (Linked less))
    (earlierLinked : AllLinked less earlier) (patience : Nat) :
    AllLinked less (settle less level last earlier patience).1 := by
  induction earlier generalizing last patience with
  | nil => simpa [settle, AllLinked] using lastLinked
  | cons previous rest ih =>
    obtain ⟨previousLinked, restLinked⟩ := List.forall_mem_cons.mp earlierLinked
    simp only [settle]
    split
    · exact ih (mergeRuns_linked less asymmetric previousLinked lastLinked patience) restLinked _
    · exact List.forall_mem_cons.mpr ⟨lastLinked, earlierLinked⟩

/-- To let a run wait keeps all items. -/
theorem enqueue_perm (total position : Nat) (waiting : List (Waiting Item)) (run : List Item)
    (patience : Nat) :
    (held (enqueue less total position waiting run patience).1).Perm (run ++ held waiting) := by
  cases waiting with
  | nil => simp [enqueue, held]
  | cons last earlier =>
    have settled := settle_perm less
      (level total (2 * position - last.items.length)
        (2 * position - last.items.length + last.items.length + run.length))
      last earlier patience
    simpa [enqueue, held] using settled.append_left run

/-- Waiting runs are in order after one in order has joined them. -/
theorem enqueue_linked (asymmetric : Asymmetric less) (total position : Nat)
    {waiting : List (Waiting Item)} {run : List Item} (waitingLinked : AllLinked less waiting)
    (runLinked : run.IsChain (Linked less)) (patience : Nat) :
    AllLinked less (enqueue less total position waiting run patience).1 := by
  cases waiting with
  | nil => simpa [enqueue, AllLinked] using runLinked
  | cons last earlier =>
    obtain ⟨lastLinked, earlierLinked⟩ := List.forall_mem_cons.mp waitingLinked
    exact List.forall_mem_cons.mpr
      ⟨runLinked, settle_linked less asymmetric _ lastLinked earlierLinked patience⟩

/-- To collect the runs keeps all items. -/
theorem collect_perm (total position : Nat) (items : List Item) (waiting : List (Waiting Item))
    (patience : Nat) :
    (held (collect less total position items waiting patience).1).Perm
      (items ++ held waiting) := by
  fun_induction collect less total position items waiting patience with
  | case1 position waiting patience => exact .refl _
  | case2 position items waiting patience _ run queued patience' enqueued ih =>
    have taken := enqueue_perm less total position waiting run patience
    rw [enqueued] at taken
    have cut := nextRun_perm less (leastRun total) items
    have moved : ((nextRun less (leastRun total) items).2 ++ (run ++ held waiting)).Perm
        (run ++ (nextRun less (leastRun total) items).2 ++ held waiting) := by
      rw [← List.append_assoc]
      exact List.perm_append_comm.append_right _
    exact ih.trans <| (taken.append_left _).trans <| moved.trans (cut.append_right _)

/-- The runs that were collected are in order. -/
theorem collect_linked (asymmetric : Asymmetric less) (total position : Nat) (items : List Item)
    {waiting : List (Waiting Item)} (waitingLinked : AllLinked less waiting) (patience : Nat) :
    AllLinked less (collect less total position items waiting patience).1 := by
  fun_induction collect less total position items waiting patience with
  | case1 position waiting patience => exact waitingLinked
  | case2 position items waiting patience _ run queued patience' enqueued ih =>
    have runLinked := nextRun_linked less asymmetric (leastRun total) items
    have queuedLinked := enqueue_linked less asymmetric total position waitingLinked runLinked
      patience
    rw [enqueued] at queuedLinked
    exact ih queuedLinked

/-- To merge the last runs keeps all items. -/
theorem conclude_perm (runs : List (List Item)) (patience : Nat) :
    (conclude less runs patience).Perm runs.flatten := by
  fun_induction conclude less runs patience with
  | case1 patience => exact .nil
  | case2 patience run => simp
  | case3 patience last previous =>
    simpa using mergeRuns_perm_swapped less previous last patience
  | case4 patience last previous early rest _ run patience' merging ih =>
    have merged := mergeRuns_perm_swapped less early previous patience
    rw [merging] at merged
    refine ih.trans ?_
    simpa using (merged.append_right rest.flatten).append_left last
  | case5 patience last previous early rest _ run patience' merging ih =>
    have merged := mergeRuns_perm_swapped less previous last patience
    rw [merging] at merged
    refine ih.trans ?_
    simpa using merged.append_right (early ++ rest.flatten)

/-- The last runs merged are in order. -/
theorem conclude_linked (asymmetric : Asymmetric less) {runs : List (List Item)}
    (linked : ∀ run ∈ runs, run.IsChain (Linked less)) (patience : Nat) :
    (conclude less runs patience).IsChain (Linked less) := by
  fun_induction conclude less runs patience with
  | case1 patience => exact .nil
  | case2 patience run => exact linked run (by simp)
  | case3 patience last previous =>
    exact mergeRuns_linked less asymmetric (linked previous (by simp)) (linked last (by simp)) _
  | case4 patience last previous early rest _ run patience' merging ih =>
    simp only [List.forall_mem_cons] at linked
    obtain ⟨lastLinked, previousLinked, earlyLinked, restLinked⟩ := linked
    have merged := mergeRuns_linked less asymmetric earlyLinked previousLinked patience
    rw [merging] at merged
    apply ih
    simp only [List.forall_mem_cons]
    exact ⟨lastLinked, merged, restLinked⟩
  | case5 patience last previous early rest _ run patience' merging ih =>
    simp only [List.forall_mem_cons] at linked
    obtain ⟨lastLinked, previousLinked, earlyLinked, restLinked⟩ := linked
    have merged := mergeRuns_linked less asymmetric previousLinked lastLinked patience
    rw [merging] at merged
    apply ih
    simp only [List.forall_mem_cons]
    exact ⟨merged, earlyLinked, restLinked⟩

/-- A sorted list holds the items of the list, each as often as before. -/
theorem sort_perm (items : List Item) : (sort less items).Perm items := by
  have collected := collect_perm less items.length 0 items [] longLeap
  refine (conclude_perm less _ _).trans ?_
  simpa [held] using collected

/-- Neighbours in a sorted list are linked. -/
theorem sort_linked (asymmetric : Asymmetric less) (items : List Item) :
    (sort less items).IsChain (Linked less) := by
  have none : AllLinked less [] := by simp [AllLinked]
  have collected := collect_linked less asymmetric items.length 0 items none longLeap
  apply conclude_linked less asymmetric
  intro run isRun
  obtain ⟨waiting, isWaiting, rfl⟩ := List.mem_map.mp isRun
  exact collected waiting isWaiting

/-- A linked list is sorted already. -/
theorem sort_of_linked {items : List Item} (linked : items.IsChain (Linked less)) :
    sort less items = items := by
  by_cases none : items = []
  · subst none
    simp [sort, collect, conclude]
  · have whole := nextRun_of_linked less (leastRun items.length) linked
    rw [sort, collect]
    simp [none, whole, enqueue, collect, conclude]

end Switchboard.Ranking
