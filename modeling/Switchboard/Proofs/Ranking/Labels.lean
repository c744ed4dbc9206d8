import Mathlib.Data.List.InsertIdx
import Switchboard.Ranking.Sort

/-!
# Sorting items by their labels

A sort asks of the items only how they compare. So a list of labels is sorted as items with these labels are,
when they are compared by the labels (`sortM_map`).
-/

namespace Switchboard.Ranking

variable {Item Label Fault : Type} (label : Item → Label)

section Searching

variable (direction : Direction) (ahead : Label → Except Fault Bool) (items : List Item)

/-- A search among labelled items is one by their labels. -/
theorem searchM_map (low high : Nat) :
    searchM direction ahead (items.map label) low high =
      searchM direction (fun item => ahead (label item)) items low high := by
  fun_induction searchM direction (fun item => ahead (label item)) items low high with
  | case1 low high room missing =>
    rw [searchM, dif_pos room, List.getElem?_map, missing, Option.map_none]
  | case2 low high room item found ihUp ihDown =>
    rw [searchM, dif_pos room, List.getElem?_map, found, Option.map_some]
    simp only [ihUp, ihDown]
  | case3 low high closed => rw [searchM, dif_neg closed]

/-- A leap over labelled items, once begun, is one by their labels. -/
theorem leapFromM_map (last next : Nat) :
    leapFromM direction ahead (items.map label) last next =
      leapFromM direction (fun item => ahead (label item)) items last next := by
  fun_induction leapFromM direction (fun item => ahead (label item)) items last next with
  | case1 last next missing =>
    rw [leapFromM]
    split
    next => rw [searchM_map, List.length_map]
    next item found => simp [missing] at found
  | case2 last next item found ih =>
    rw [leapFromM]
    split
    next missing => simp [found] at missing
    next other alike =>
      obtain rfl : label item = other := by simpa [found] using alike
      simp only [ih, searchM_map]

/-- A leap over labelled items is one by their labels. -/
theorem leapM_map :
    leapM direction ahead (items.map label) =
      leapM direction (fun item => ahead (label item)) items := by
  cases items with
  | nil => rfl
  | cons first rest => simp only [leapM, ← leapFromM_map, List.map_cons]

end Searching

variable (less : Label → Label → Except Fault Bool)

/-- The comparison of items by their labels. -/
def byLabel (first second : Item) : Except Fault Bool :=
  less (label first) (label second)

section Runs

/-- A falling run of labelled items is one by their labels. -/
theorem fallingRunM_map (last : Item) (items : List Item) :
    fallingRunM less (label last) (items.map label) =
      Prod.map (List.map label) (List.map label) <$> fallingRunM (byLabel label less) last items := by
  induction items generalizing last with
  | nil => rfl
  | cons item rest ih =>
    simp only [List.map_cons, fallingRunM, byLabel, ih, map_bind, bind_map_left]
    refine bind_congr fun falls => ?_
    cases falls <;> simp

/-- A rising run of labelled items is one by their labels. -/
theorem risingRunM_map (last : Item) (items : List Item) :
    risingRunM less (label last) (items.map label) =
      Prod.map (List.map label) (List.map label) <$> risingRunM (byLabel label less) last items := by
  induction items generalizing last with
  | nil => rfl
  | cons item rest ih =>
    simp only [List.map_cons, risingRunM, byLabel, ih, map_bind, bind_map_left]
    refine bind_congr fun falls => ?_
    cases falls <;> simp

/-- The first run of labelled items is that by their labels. -/
theorem firstRunM_map (items : List Item) :
    firstRunM less (items.map label) =
      Prod.map (List.map label) (List.map label) <$> firstRunM (byLabel label less) items := by
  match items with
  | [] => rfl
  | [item] => rfl
  | first :: second :: rest =>
    simp only [List.map_cons, firstRunM, byLabel, fallingRunM_map, risingRunM_map, map_bind, bind_map_left]
    refine bind_congr fun falls => ?_
    cases falls <;> simp

/-- A labelled item is put into its place by its label. -/
theorem insertItemM_map (run : List Item) (item : Item) :
    insertItemM less (run.map label) (label item) =
      List.map label <$> insertItemM (byLabel label less) run item := by
  simp only [insertItemM, placeM, searchM_map, List.length_map, map_bind, map_pure,
    List.map_insertIdx, byLabel]

/-- Labelled items are put into their places by their labels. -/
theorem insertItemsM_map (run items : List Item) :
    (items.map label).foldlM (insertItemM less) (run.map label) =
      List.map label <$> items.foldlM (insertItemM (byLabel label less)) run := by
  induction items generalizing run with
  | nil => rfl
  | cons item rest ih =>
    simp only [List.map_cons, List.foldlM_cons, insertItemM_map, bind_map_left, map_bind, ih]

/-- The next run of labelled items, made long enough, is that by their labels. -/
theorem nextRunM_map (least : Nat) (items : List Item) :
    nextRunM less least (items.map label) =
      Prod.map (List.map label) (List.map label) <$> nextRunM (byLabel label less) least items := by
  simp only [nextRunM, firstRunM_map, bind_map_left, map_bind, Prod.map_fst, Prod.map_snd, List.length_map, ← List.map_take, ← List.map_drop, insertItemsM_map]
  simp
end Runs

namespace Merge

/-- A merge of the labels of what is merged. -/
def map (merge : Merge Item) : Merge Label where
  placed := merge.placed.map label
  left := merge.left.map label
  right := merge.right.map label
  pace := merge.pace
  patience := merge.patience

variable (merge : Merge Item)

/-- The left side holds labels. -/
@[simp] theorem left_map : (merge.map label).left = merge.left.map label := rfl

/-- The right side holds labels. -/
@[simp] theorem right_map : (merge.map label).right = merge.right.map label := rfl

/-- The pace does not depend on labels. -/
@[simp] theorem pace_map : (merge.map label).pace = merge.pace := rfl

/-- Whether a merge is settled does not depend on labels. -/
@[simp] theorem isSettled_map : (merge.map label).isSettled = merge.isSettled := by
  simp [isSettled, map]

/-- Items are placed with their labels. -/
@[simp] theorem take_map (side : Side) (count : Nat) :
    (merge.map label).take side count = (merge.take side count).map label := by
  cases side <;> simp [take, map]

/-- A merge moves on with the labels. -/
@[simp] theorem moveOn_map (side : Side) :
    (merge.map label).moveOn side = (merge.moveOn side).map label := by
  simp only [moveOn, isSettled_map, take_map, apply_ite (map label)]

/-- A pace is taken up with the labels. -/
@[simp] theorem paced_map (wins : Nat) (pace : Pace) :
    (merge.map label).paced wins pace = (merge.paced wins pace).map label := rfl

/-- A new pace is taken up with the labels. -/
@[simp] theorem repaced_map (wins : Nat) :
    (merge.map label).repaced wins = (merge.repaced wins).map label := by
  simp only [repaced, isSettled_map, apply_ite (map label)]
  rfl

/-- The result holds labels. -/
@[simp] theorem result_map : (merge.map label).result = merge.result.map label := by
  simp [result, map]

variable (direction : Direction)

/-- Which side leads is told by the labels. -/
theorem leadM_map (side : Side) :
    (merge.map label).leadM direction less side = merge.leadM direction (byLabel label less) side := by
  obtain ⟨placed, left, right, pace, patience⟩ := merge
  cases side with
  | left => cases right <;> simp [leadM, map, leapM_map, byLabel]
  | right => cases left <;> simp [leadM, map, leapM_map, byLabel]

/-- A leap in a merge of labelled items is one by their labels. -/
theorem leapOnM_map (side : Side) :
    (merge.map label).leapOnM direction less side =
      Prod.map (map label) id <$> merge.leapOnM direction (byLabel label less) side := by
  simp only [leapOnM, isSettled_map, leadM_map, take_map]
  split <;> simp

/-- A round of a merge of labelled items is one by their labels. -/
theorem roundM_map :
    (merge.map label).roundM direction less =
      Prod.map (map label) id <$> merge.roundM direction (byLabel label less) := by
  simp only [roundM, leapOnM_map, bind_map_left, map_bind, Prod.map_fst, Prod.map_snd, moveOn_map, id, map_pure]
  rfl

/-- A step of a merge of labelled items is one by their labels. -/
theorem stepM_map :
    (merge.map label).stepM direction less =
      map label <$> merge.stepM direction (byLabel label less) := by
  unfold stepM
  cases pace : merge.pace with
  | leaps =>
    simp only [pace_map, pace, roundM_map, bind_map_left, map_bind, Prod.map_fst, Prod.map_snd, id,
      repaced_map, map_pure]
  | steps lefts rights =>
    cases left : merge.left with
    | nil => simp only [pace_map, pace, left_map, left, List.map_nil, Except.map_ok]
    | cons item items =>
      cases right : merge.right with
      | nil => simp [pace, left, right]
      | cons other others =>
        simp only [pace_map, pace, left_map, left, right_map, right, List.map_cons, byLabel, map_bind]
        refine bind_congr fun comes => ?_
        cases comes <;> simp

/-- A merge of labelled items runs as one by their labels. -/
theorem runM_map :
    (merge.map label).runM direction less =
      map label <$> merge.runM direction (byLabel label less) := by
  fun_induction runM direction (byLabel label less) merge with
  | case1 merge settled =>
    rw [runM, dif_pos (by simpa using settled)]
    rfl
  | case2 merge unsettled fault failed =>
    rw [runM, dif_neg (by simpa using unsettled)]
    have stepped := stepM_map label less merge direction
    rw [failed] at stepped
    split
    next => simp_all
    next => simp_all
  | case3 merge unsettled next gone ih =>
    rw [runM, dif_neg (by simpa using unsettled)]
    have stepped := stepM_map label less merge direction
    rw [gone] at stepped
    split
    next => simp_all
    next => simp_all

/-- Labelled items are merged by their labels. -/
theorem mergedM_map (left right : List Item) (patience : Nat) :
    mergedM direction less (left.map label) (right.map label) patience =
      Prod.map (List.map label) id <$> mergedM direction (byLabel label less) left right patience := by
  have begun : (⟨(right.map label).take 1, left.map label, (right.map label).drop 1, .steps 0 0,
      patience⟩ : Merge Label) =
      map label ⟨right.take 1, left, right.drop 1, .steps 0 0, patience⟩ := by
    simp [map]
  simp only [mergedM, begun, runM_map, bind_map_left, map_bind, result_map, map_pure]
  rfl

end Merge

section Merging

/-- To compare labels the other way round is to compare by labels the other way round. -/
theorem byLabel_swap :
    (fun first second => byLabel label less second first : Item → Item → Except Fault Bool) =
      byLabel label fun first second => less second first := rfl

/-- What overlaps in two runs of labelled items is merged by their labels. -/
theorem mergeMiddleM_map (lower upper : List Item) (patience : Nat) :
    mergeMiddleM less (lower.map label) (upper.map label) patience =
      Prod.map (List.map label) id <$> mergeMiddleM (byLabel label less) lower upper patience := by
  simp only [mergeMiddleM, List.isEmpty_map, List.length_map, ← List.map_reverse, Merge.mergedM_map,
    byLabel_swap]
  split
  · rfl
  · split
    · rfl
    · simp

/-- Two runs of labelled items are merged by their labels. -/
theorem mergeRunsM_map (first second : List Item) (patience : Nat) :
    mergeRunsM less (first.map label) (second.map label) patience =
      Prod.map (List.map label) id <$> mergeRunsM (byLabel label less) first second patience := by
  cases second with
  | nil => rfl
  | cons head rest =>
    simp only [mergeRunsM, List.map_cons, leapM_map, map_bind]
    refine bind_congr fun before => ?_
    rw [← List.map_drop, List.getLast?_map]
    cases (first.drop before).getLast? with
    | none => simp
    | some last =>
      simp only [Option.map_some, ← List.map_cons, ← List.map_reverse, leapM_map, map_bind,
        List.length_map, ← List.map_take, ← List.map_drop, mergeMiddleM_map, bind_map_left]
      simp [byLabel]

/-- A run that waits, with the labels of its items. -/
def Waiting.map (run : Waiting Item) : Waiting Label where
  level := run.level
  items := run.items.map label

/-- The level of a waiting run does not depend on labels. -/
@[simp] theorem Waiting.level_map (run : Waiting Item) : (run.map label).level = run.level := rfl

/-- The items of a waiting run get labels. -/
@[simp] theorem Waiting.items_map (run : Waiting Item) :
    (run.map label).items = run.items.map label := rfl

/-- Waiting runs of labelled items are merged down to a level by their labels. -/
theorem settleM_map (level : Nat) (last : Waiting Item) (earlier : List (Waiting Item))
    (patience : Nat) :
    settleM less level (last.map label) (earlier.map (Waiting.map label)) patience =
      Prod.map (List.map (Waiting.map label)) id <$>
        settleM (byLabel label less) level last earlier patience := by
  induction earlier generalizing last patience with
  | nil => rfl
  | cons previous rest ih =>
    simp only [List.map_cons, settleM, Waiting.level_map, Waiting.items_map, mergeRunsM_map,
      bind_map_left]
    split
    · rw [map_bind]
      exact bind_congr fun merged => ih ⟨previous.level, merged.1⟩ merged.2
    · rfl

/-- A run of labelled items joins those that wait by their labels. -/
theorem enqueueM_map (total position : Nat) (waiting : List (Waiting Item)) (run : List Item)
    (patience : Nat) :
    enqueueM less total position (waiting.map (Waiting.map label)) (run.map label) patience =
      Prod.map (List.map (Waiting.map label)) id <$>
        enqueueM (byLabel label less) total position waiting run patience := by
  cases waiting with
  | nil => rfl
  | cons last earlier =>
    simp only [List.map_cons, enqueueM, Waiting.items_map, List.length_map, settleM_map,
      bind_map_left, map_bind, map_pure]
    rfl

/-- The runs of labelled items are collected by their labels. -/
theorem collectM_map (total position : Nat) (items : List Item) (waiting : List (Waiting Item))
    (patience : Nat) :
    collectM less total position (items.map label) (waiting.map (Waiting.map label)) patience =
      Prod.map (List.map (Waiting.map label)) id <$>
        collectM (byLabel label less) total position items waiting patience := by
  fun_induction collectM (byLabel label less) total position items waiting patience with
  | case1 position waiting patience =>
    rw [collectM, dif_pos List.map_nil]
    rfl
  | case2 position items waiting patience some fault failed =>
    have cut := nextRunM_map label less (leastRun total) items
    rw [failed] at cut
    rw [collectM, dif_neg (by simpa using some)]
    split
    next => simp_all
    next => simp_all
  | case3 position items waiting patience some run rest gone ih =>
    have cut := nextRunM_map label less (leastRun total) items
    rw [gone] at cut
    rw [collectM, dif_neg (by simpa using some)]
    split
    next => simp_all
    next run' rest' gone' =>
      obtain ⟨rfl, rfl⟩ : run' = run.map label ∧ rest' = rest.map label := by
        simpa [gone', eq_comm] using cut
      rw [enqueueM_map, bind_map_left, map_bind, List.length_map]
      exact bind_congr fun queued => ih queued.1 queued.2

/-- The last runs of labelled items are merged by their labels. -/
theorem concludeM_map (runs : List (List Item)) (patience : Nat) :
    concludeM less (runs.map (List.map label)) patience =
      List.map label <$> concludeM (byLabel label less) runs patience := by
  fun_induction concludeM (byLabel label less) runs patience with
  | case1 patience =>
    rw [List.map_nil, concludeM]
    rfl
  | case2 patience run =>
    rw [List.map_cons, List.map_nil, concludeM]
    rfl
  | case3 patience last previous =>
    simp [concludeM, mergeRunsM_map]
  | case4 patience last previous early rest shorter ih =>
    simp only [List.map_cons, concludeM]
    rw [if_pos (by simpa using shorter), mergeRunsM_map, bind_map_left, map_bind]
    exact bind_congr fun merged => ih merged.1 merged.2
  | case5 patience last previous early rest longer ih =>
    simp only [List.map_cons, concludeM]
    rw [if_neg (by simpa using longer), mergeRunsM_map, bind_map_left, map_bind]
    exact bind_congr fun merged => ih merged.1 merged.2

/-- The labels of a list are sorted as the items are by their labels. -/
theorem sortM_map (items : List Item) :
    sortM less (items.map label) = List.map label <$> sortM (byLabel label less) items := by
  have collected := collectM_map label less items.length 0 items [] longLeap
  have seated : Waiting.items ∘ Waiting.map label = List.map label ∘ Waiting.items := rfl
  simp only [List.map_nil] at collected
  simp only [sortM, List.length_map, collected, bind_map_left, map_bind, Prod.map_fst, Prod.map_snd,
    id, List.map_map, seated]
  refine bind_congr fun waiting => ?_
  rw [← List.map_map, concludeM_map]

end Merging

end Switchboard.Ranking
