import Switchboard.Proofs.Ranking.Sorting

/-!
# Sorting with a comparison that may fail

A sort fails only where one of its comparisons does, and what it gives otherwise is what the sort with the
answers gives. Both are one statement: an outcome is a certain value, or it is a failure, if failures are
allowed at all (`Yields`). Where they are not, every comparison of items of the list has an answer and the
sort has a result; where they are, nothing is asked of the comparison but that its answers are the right
ones (`sortM_yields`).

The statements follow the sort from its searches to its merges. What is carried along is that all items are
of a kind for which the comparison answers, and the sort only ever compares items of the list.
-/

namespace Switchboard

variable {Fault Result Next : Type}

/-- Whether an outcome is a value, or a failure where it may be one. -/
def Yields (mayFail : Prop) (outcome : Except Fault Result) (result : Result) : Prop :=
  outcome = .ok result ∨ mayFail ∧ ∃ fault, outcome = .error fault

namespace Yields

variable {mayFail : Prop} {outcome : Except Fault Result} {result : Result}

/-- A value gives itself. -/
theorem ok : Yields mayFail (.ok result : Except Fault Result) result := .inl rfl

/-- What does nothing yields its own result. -/
theorem pure : Yields mayFail (Pure.pure result : Except Fault Result) result := ok

/-- What is done one after the other gives what the second step does with what the first one gives. -/
theorem bind {next : Result → Except Fault Next} {last : Next} (first : Yields mayFail outcome result)
    (second : Yields mayFail (next result) last) : Yields mayFail (outcome >>= next) last := by
  rcases first with rfl | ⟨allowed, fault, rfl⟩
  · exact second
  · exact .inr ⟨allowed, fault, rfl⟩

/-- A change of the result yields the result changed. -/
theorem map (change : Result → Next) (given : Yields mayFail outcome result) :
    Yields mayFail (outcome.map change) (change result) := by
  rcases given with rfl | ⟨allowed, fault, rfl⟩
  · exact ok
  · exact .inr ⟨allowed, fault, rfl⟩

/-- An outcome that may not fail is what it gives. -/
theorem eq_ok (given : Yields mayFail outcome result) (safe : ¬mayFail) : outcome = .ok result :=
  given.resolve_right fun failed => safe failed.1

/-- The result of an outcome is what it gives. -/
theorem eq_of_eq_ok {other : Result} (given : Yields mayFail outcome result)
    (ended : outcome = .ok other) : other = result := by
  rcases given with same | ⟨-, fault, failed⟩
  · exact Except.ok.inj (ended.symm.trans same)
  · simp [failed] at ended

end Yields

namespace Ranking

variable {Item : Type} {mayFail : Prop}

section Searching

variable {ahead? : Item → Except Fault Bool} {ahead : Item → Bool} {items : List Item}
  (answers : ∀ item ∈ items, Yields mayFail (ahead? item) (ahead item))
include answers

/-- A search yields the place that the answers tell. -/
theorem searchM_yields (direction : Direction) (low high : Nat) :
    Yields mayFail (searchM direction ahead? items low high)
      (search direction ahead items low high) := by
  fun_induction search direction ahead items low high with
  | case1 low high room missing =>
    rw [searchM, dif_pos room]
    simp only [missing]
    exact .ok
  | case2 low high room item found isAhead ih =>
    rw [searchM, dif_pos room]
    simp only [found]
    have tried := answers item (List.mem_of_getElem? found)
    rw [isAhead] at tried
    exact tried.bind ih
  | case3 low high room item found isBehind ih =>
    rw [searchM, dif_pos room]
    simp only [found]
    have tried := answers item (List.mem_of_getElem? found)
    rw [Bool.eq_false_iff.mpr isBehind] at tried
    exact tried.bind ih
  | case4 low high closed =>
    rw [searchM, dif_neg closed]
    exact .ok

/-- A leap, once begun, yields what the answers tell. -/
theorem leapFromM_yields (direction : Direction) (last next : Nat) :
    Yields mayFail (leapFromM direction ahead? items last next)
      (leapFrom direction ahead items last next) := by
  fun_induction leapFrom direction ahead items last next with
  | case1 last next missing =>
    rw [leapFromM]
    split
    next => exact searchM_yields answers direction _ _
    next item found => simp [missing] at found
  | case2 last next item found isAhead ih =>
    rw [leapFromM]
    split
    next missing => simp [missing] at found
    next other alike =>
      obtain rfl : item = other := by simpa [found] using alike
      have tried := answers item (List.mem_of_getElem? found)
      rw [isAhead] at tried
      exact tried.bind ih
  | case3 last next item found isBehind =>
    rw [leapFromM]
    split
    next missing => simp [missing] at found
    next other alike =>
      obtain rfl : item = other := by simpa [found] using alike
      have tried := answers item (List.mem_of_getElem? found)
      rw [Bool.eq_false_iff.mpr isBehind] at tried
      exact tried.bind (searchM_yields answers direction _ _)

/-- A leap yields what the answers tell. -/
theorem leapM_yields (direction : Direction) :
    Yields mayFail (leapM direction ahead? items) (leap direction ahead items) := by
  cases items with
  | nil => exact .ok
  | cons first rest =>
    refine (answers first List.mem_cons_self).bind ?_
    cases isAhead : ahead first with
    | false => simpa [leap, isAhead] using Yields.pure
    | true => simpa [leap, isAhead] using leapFromM_yields answers direction 0 1

end Searching

/-- Whether the answers of a comparison are right, of which all have to be given for items of a kind unless it
may fail. -/
def Answers (mayFail : Prop) (isOne : Item → Prop) (less? : Item → Item → Except Fault Bool)
    (less : Item → Item → Bool) : Prop :=
  ∀ first second, isOne first → isOne second → Yields mayFail (less? first second) (less first second)

variable {isOne : Item → Prop} {less? : Item → Item → Except Fault Bool} {less : Item → Item → Bool}

/-- A comparison the other way round is answered as the comparison is. -/
theorem Answers.swap (answers : Answers mayFail isOne less? less) :
    Answers mayFail isOne (fun first second => less? second first)
      (fun first second => less second first) :=
  fun first second isFirst isSecond => answers second first isSecond isFirst

section Runs

variable (answers : Answers mayFail isOne less? less)
include answers

/-- A falling run is that of the answers. -/
theorem fallingRunM_yields {last : Item} {items : List Item} (isLast : isOne last)
    (areItems : ∀ item ∈ items, isOne item) :
    Yields mayFail (fallingRunM less? last items) (fallingRun less last items) := by
  induction items generalizing last with
  | nil => exact .ok
  | cons item rest ih =>
    obtain ⟨isItem, areRest⟩ := List.forall_mem_cons.mp areItems
    refine (answers item last isItem isLast).bind ?_
    cases falls : less item last with
    | false => simpa [fallingRun, falls] using Yields.pure
    | true =>
      simp only [fallingRun, falls, if_true]
      exact (ih isItem areRest).bind .pure

/-- A rising run is that of the answers. -/
theorem risingRunM_yields {last : Item} {items : List Item} (isLast : isOne last)
    (areItems : ∀ item ∈ items, isOne item) :
    Yields mayFail (risingRunM less? last items) (risingRun less last items) := by
  induction items generalizing last with
  | nil => exact .ok
  | cons item rest ih =>
    obtain ⟨isItem, areRest⟩ := List.forall_mem_cons.mp areItems
    refine (answers item last isItem isLast).bind ?_
    cases falls : less item last with
    | true => simpa [risingRun, falls] using Yields.pure
    | false =>
      simp only [risingRun, falls, Bool.false_eq_true, if_false]
      exact (ih isItem areRest).bind .pure

/-- The first run is that of the answers. -/
theorem firstRunM_yields {items : List Item} (areItems : ∀ item ∈ items, isOne item) :
    Yields mayFail (firstRunM less? items) (firstRun less items) := by
  match items, areItems with
  | [], _ => exact .ok
  | [item], _ => exact .ok
  | first :: second :: rest, areItems =>
    simp only [List.forall_mem_cons] at areItems
    obtain ⟨isFirst, isSecond, areRest⟩ := areItems
    refine (answers second first isSecond isFirst).bind ?_
    cases falls : less second first with
    | true =>
      simp only [firstRun, falls, if_true]
      exact (fallingRunM_yields answers isSecond areRest).bind .pure
    | false =>
      simp only [firstRun, falls, Bool.false_eq_true, if_false]
      exact (risingRunM_yields answers isSecond areRest).bind .pure

/-- An item is put where the answers tell. -/
theorem insertItemM_yields {item : Item} {run : List Item} (isItem : isOne item)
    (areRun : ∀ other ∈ run, isOne other) :
    Yields mayFail (insertItemM less? run item) (insertItem less run item) := by
  have placed : Yields mayFail (placeM less? item run) (place less item run) :=
    searchM_yields (fun other isOther => (answers item other isItem (areRun other isOther)).map not)
      .forward 0 run.length
  exact placed.bind .pure

/-- Items are put where the answers tell, one after the other. -/
theorem insertItemsM_yields {run items : List Item} (areRun : ∀ item ∈ run, isOne item)
    (areItems : ∀ item ∈ items, isOne item) :
    Yields mayFail (items.foldlM (insertItemM less?) run) (items.foldl (insertItem less) run) := by
  induction items generalizing run with
  | nil => exact .pure
  | cons item rest ih =>
    obtain ⟨isItem, areRest⟩ := List.forall_mem_cons.mp areItems
    have areLonger : ∀ other ∈ insertItem less run item, isOne other := by
      intro other isOther
      rcases List.mem_cons.mp ((insertItem_perm less run item).subset isOther) with rfl | inside
      · exact isItem
      · exact areRun other inside
    exact (insertItemM_yields answers isItem areRun).bind (ih areLonger areRest)

/-- The next run, made long enough, is that of the answers. -/
theorem nextRunM_yields (least : Nat) {items : List Item} (areItems : ∀ item ∈ items, isOne item) :
    Yields mayFail (nextRunM less? least items) (nextRun less least items) := by
  have whole := firstRun_perm less items
  have areRun : ∀ item ∈ (firstRun less items).1, isOne item := fun item isItem =>
    areItems item (whole.subset (List.mem_append_left _ isItem))
  have areAfter : ∀ item ∈ (firstRun less items).2, isOne item := fun item isItem =>
    areItems item (whole.subset (List.mem_append_right _ isItem))
  refine (firstRunM_yields answers areItems).bind ?_
  refine (insertItemsM_yields answers areRun fun item isItem => ?_).bind .pure
  exact areAfter item (List.mem_of_mem_take isItem)

end Runs

namespace Merge

variable {merge : Merge Item}

/-- Whether all items that a merge has on its sides are of a kind. -/
def Holds (isOne : Item → Prop) (merge : Merge Item) : Prop :=
  ∀ side, ∀ item ∈ merge.on side, isOne item

/-- Items that are placed stay of the kind. -/
theorem Holds.take (holds : merge.Holds isOne) (side : Side) (count : Nat) :
    (merge.take side count).Holds isOne := by
  intro either item isItem
  by_cases same : either = side
  · subst same
    rw [on_take_self] at isItem
    exact holds either item (List.mem_of_mem_drop isItem)
  · have opposite : either = side.other := by cases either <;> cases side <;> trivial
    subst opposite
    rw [on_take_other] at isItem
    exact holds side.other item isItem

/-- A merge that moves on holds what it held. -/
theorem Holds.moveOn (holds : merge.Holds isOne) (side : Side) : (merge.moveOn side).Holds isOne := by
  unfold Merge.moveOn
  split
  · exact holds
  · exact holds.take side 1

section Pacing

variable {before? : Item → Item → Except Fault Bool} (direction : Direction)
  (before : Item → Item → Bool)

/-- A leap in a merge holds what it held. -/
theorem Holds.leapOn (holds : merge.Holds isOne) (side : Side) :
    (merge.leapOn direction before side).1.Holds isOne := by
  unfold Merge.leapOn
  split
  · exact holds
  · exact holds.take side _

/-- A merge with a new pace holds what it held. -/
theorem Holds.repaced (holds : merge.Holds isOne) (wins : Nat) : (merge.repaced wins).Holds isOne := by
  obtain ⟨-, left, right⟩ := repaced_sides merge wins
  intro side
  cases side with
  | left => simpa only [on, left] using holds .left
  | right => simpa only [on, right] using holds .right

/-- A step of a merge holds what it held. -/
theorem Holds.step (holds : merge.Holds isOne) :
    (merge.step direction before).Holds isOne := by
  unfold Merge.step
  split
  · let first := opening direction
    have opened := holds.leapOn direction before first
    have answered := (opened.moveOn first.other).leapOn direction before first.other
    exact (answered.moveOn first).repaced _
  · split
    · exact holds.take .right 1
    · exact holds.take .left 1
  · exact holds

variable {before} (answers : Answers mayFail isOne before? before)
include answers

/-- Which side leads is as the answers tell. -/
theorem leadM_yields (holds : merge.Holds isOne) (side : Side) :
    Yields mayFail (merge.leadM direction before? side) (merge.lead direction before side) := by
  have areLeft : ∀ item ∈ merge.left, isOne item := holds .left
  have areRight : ∀ item ∈ merge.right, isOne item := holds .right
  cases side with
  | left =>
    cases right : merge.right with
    | nil => simpa [leadM, lead, right] using Yields.ok
    | cons other rest =>
      have isOther : isOne other := areRight other (by simp [right])
      have ahead := leapM_yields
        (fun item isItem => (answers other item isOther (areLeft item isItem)).map not) direction
      simpa [leadM, lead, right] using ahead
  | right =>
    cases left : merge.left with
    | nil => simpa [leadM, lead, left] using Yields.ok
    | cons other rest =>
      have isOther : isOne other := areLeft other (by simp [left])
      have ahead := leapM_yields
        (fun item isItem => answers item other (areRight item isItem) isOther) direction
      simpa [leadM, lead, left] using ahead

/-- A leap in a merge yields what the answers tell. -/
theorem leapOnM_yields (holds : merge.Holds isOne) (side : Side) :
    Yields mayFail (merge.leapOnM direction before? side) (merge.leapOn direction before side) := by
  unfold leapOnM leapOn
  split
  · exact .ok
  · exact (leadM_yields direction answers holds side).bind .pure

/-- A round yields what the answers tell. -/
theorem roundM_yields (holds : merge.Holds isOne) :
    Yields mayFail (merge.roundM direction before?) (merge.round direction before) := by
  let first := opening direction
  have opened := holds.leapOn direction before first
  refine (leapOnM_yields direction answers holds first).bind ?_
  exact (leapOnM_yields direction answers (opened.moveOn first.other) first.other).bind .pure

/-- A step yields what the answers tell. -/
theorem stepM_yields (holds : merge.Holds isOne) :
    Yields mayFail (merge.stepM direction before?) (merge.step direction before) := by
  cases pace : merge.pace with
  | leaps =>
    simp only [stepM, step, pace]
    refine (roundM_yields direction answers holds).bind ?_
    exact .pure
  | steps lefts rights =>
    cases left : merge.left with
    | nil => simpa only [stepM, step, pace, left] using Yields.ok
    | cons item items =>
      cases right : merge.right with
      | nil => simpa only [stepM, step, pace, left, right] using Yields.ok
      | cons other others =>
        have isItem : isOne item := holds .left item (by simp [on, left])
        have isOther : isOne other := holds .right other (by simp [on, right])
        simp only [stepM, step, pace, left, right]
        refine (answers other item isOther isItem).bind ?_
        split
        · exact .pure
        · exact .pure

/-- A merge yields what the answers tell, by the steps that it takes. -/
theorem runM_yields (holds : merge.Holds isOne) :
    Yields mayFail (merge.runM direction before?) (merge.run direction before) := by
  fun_induction run direction before merge with
  | case1 merge settled =>
    rw [runM, dif_pos settled]
    exact .ok
  | case2 merge unsettled ih =>
    rw [runM, dif_neg unsettled]
    have stepped := stepM_yields direction answers holds
    split
    next fault failed =>
      rcases stepped with gone | ⟨allowed, -⟩
      · simp [failed] at gone
      · exact .inr ⟨allowed, fault, rfl⟩
    next next gone =>
      obtain rfl := stepped.eq_of_eq_ok gone
      exact ih (holds.step direction before)

/-- Two sides are merged as the answers tell. -/
theorem mergedM_yields {left right : List Item} (areLeft : ∀ item ∈ left, isOne item)
    (areRight : ∀ item ∈ right, isOne item) (patience : Nat) :
    Yields mayFail (mergedM direction before? left right patience)
      (merged direction before left right patience) := by
  refine (runM_yields direction answers ?_).bind .pure
  intro side item isItem
  cases side with
  | left => exact areLeft item isItem
  | right => exact areRight item (List.mem_of_mem_drop isItem)

end Pacing

end Merge

section Merging

variable (answers : Answers mayFail isOne less? less)
include answers

/-- What overlaps in two runs is merged as the answers tell. -/
theorem mergeMiddleM_yields {lower upper : List Item} (areLower : ∀ item ∈ lower, isOne item)
    (areUpper : ∀ item ∈ upper, isOne item) (patience : Nat) :
    Yields mayFail (mergeMiddleM less? lower upper patience)
      (mergeMiddle less lower upper patience) := by
  unfold mergeMiddleM mergeMiddle
  split
  · exact .ok
  · split
    · exact Merge.mergedM_yields .forward answers areLower areUpper patience
    · refine (Merge.mergedM_yields .backward answers.swap ?_ ?_ patience).bind .pure
      · exact fun item isItem => areUpper item (List.mem_reverse.mp isItem)
      · exact fun item isItem => areLower item (List.mem_reverse.mp isItem)

/-- Two runs are merged as the answers tell. -/
theorem mergeRunsM_yields {first second : List Item} (areFirst : ∀ item ∈ first, isOne item)
    (areSecond : ∀ item ∈ second, isOne item) (patience : Nat) :
    Yields mayFail (mergeRunsM less? first second patience) (mergeRuns less first second patience) := by
  cases second with
  | nil => exact .ok
  | cons head rest =>
    have isHead : isOne head := areSecond head List.mem_cons_self
    refine (leapM_yields (fun item isItem => (answers head item isHead (areFirst item isItem)).map not)
      .forward).bind ?_
    cases isLast : (first.drop (leap .forward (fun item => !less head item) first)).getLast? with
    | none => simpa [mergeRuns, isLast] using Yields.pure
    | some last =>
      have isOneLast : isOne last :=
        areFirst last (List.mem_of_mem_drop (List.mem_of_getLast? isLast))
      simp only [mergeRuns, isLast]
      refine (leapM_yields (fun item isItem => (answers item last
        (areSecond item (List.mem_reverse.mp isItem)) isOneLast).map not) .backward).bind ?_
      refine (mergeMiddleM_yields answers ?_ ?_ patience).bind .pure
      · exact fun item isItem => areFirst item (List.mem_of_mem_drop isItem)
      · exact fun item isItem => areSecond item (List.mem_of_mem_take isItem)

omit answers in
/-- Two runs of items of a kind are merged into one of such items. -/
theorem forall_mergeRuns {first second : List Item} (areFirst : ∀ item ∈ first, isOne item)
    (areSecond : ∀ item ∈ second, isOne item) (patience : Nat) :
    ∀ item ∈ (mergeRuns less first second patience).1, isOne item := by
  intro item isItem
  rcases List.mem_append.mp ((mergeRuns_perm less first second patience).subset isItem) with
    former | latter
  · exact areFirst item former
  · exact areSecond item latter

/-- Whether all items of the runs that wait are of a kind. -/
def AllHold (isOne : Item → Prop) (waiting : List (Waiting Item)) : Prop :=
  ∀ item ∈ held waiting, isOne item

omit answers in
/-- The items of waiting runs are those of the last and those of the earlier ones. -/
theorem allHold_cons {last : Waiting Item} {earlier : List (Waiting Item)} :
    AllHold isOne (last :: earlier) ↔ (∀ item ∈ last.items, isOne item) ∧ AllHold isOne earlier := by
  simp only [AllHold, held, List.map_cons, List.flatten_cons, List.forall_mem_append]

/-- Waiting runs are merged down to a level as the answers tell. -/
theorem settleM_yields (level : Nat) {last : Waiting Item} {earlier : List (Waiting Item)}
    (areLast : ∀ item ∈ last.items, isOne item) (areEarlier : AllHold isOne earlier) (patience : Nat) :
    Yields mayFail (settleM less? level last earlier patience)
      (settle less level last earlier patience) := by
  induction earlier generalizing last patience with
  | nil => exact .ok
  | cons previous rest ih =>
    obtain ⟨arePrevious, areRest⟩ := allHold_cons.mp areEarlier
    unfold settleM settle
    split
    · exact (mergeRunsM_yields answers arePrevious areLast patience).bind
        (ih (forall_mergeRuns arePrevious areLast patience) areRest _)
    · exact .ok

/-- A run joins those that wait as the answers tell. -/
theorem enqueueM_yields (total position : Nat) {waiting : List (Waiting Item)} (run : List Item)
    (areWaiting : AllHold isOne waiting) (patience : Nat) :
    Yields mayFail (enqueueM less? total position waiting run patience)
      (enqueue less total position waiting run patience) := by
  cases waiting with
  | nil => exact .ok
  | cons last earlier =>
    obtain ⟨areLast, areEarlier⟩ := allHold_cons.mp areWaiting
    exact (settleM_yields answers _ areLast areEarlier patience).bind .pure

/-- The runs are collected as the answers tell. -/
theorem collectM_yields (total position : Nat) {items : List Item} {waiting : List (Waiting Item)}
    (areItems : ∀ item ∈ items, isOne item) (areWaiting : AllHold isOne waiting) (patience : Nat) :
    Yields mayFail (collectM less? total position items waiting patience)
      (collect less total position items waiting patience) := by
  fun_induction collect less total position items waiting patience with
  | case1 position waiting patience =>
    rw [collectM, dif_pos rfl]
    exact .ok
  | case2 position items waiting patience some run queued patience' enqueued ih =>
    rw [collectM, dif_neg some]
    have cut := nextRunM_yields answers (leastRun total) areItems
    have parts := nextRun_perm less (leastRun total) items
    have areRun : ∀ item ∈ run, isOne item := fun item isItem =>
      areItems item (parts.subset (List.mem_append_left _ isItem))
    have areRest : ∀ item ∈ (nextRun less (leastRun total) items).2, isOne item :=
      fun item isItem => areItems item (parts.subset (List.mem_append_right _ isItem))
    have taken := enqueue_perm less total position waiting run patience
    rw [enqueued] at taken
    have areQueued : AllHold isOne queued := by
      intro item isItem
      rcases List.mem_append.mp (taken.subset isItem) with new | old
      · exact areRun item new
      · exact areWaiting item old
    split
    next fault failed =>
      rcases cut with gone | ⟨allowed, -⟩
      · simp [failed] at gone
      · exact .inr ⟨allowed, fault, rfl⟩
    next run' rest gone =>
      obtain ⟨rfl, rfl⟩ := Prod.mk.inj (cut.eq_of_eq_ok gone)
      have put := enqueueM_yields answers total position run areWaiting patience
      rw [enqueued] at put
      exact put.bind (ih areRest areQueued)

/-- The last runs are merged as the answers tell. -/
theorem concludeM_yields {runs : List (List Item)} (areRuns : ∀ item ∈ runs.flatten, isOne item)
    (patience : Nat) :
    Yields mayFail (concludeM less? runs patience) (conclude less runs patience) := by
  fun_induction conclude less runs patience with
  | case1 patience =>
    rw [concludeM]
    exact .ok
  | case2 patience run =>
    rw [concludeM]
    exact .ok
  | case3 patience last previous =>
    simp only [List.flatten_cons, List.forall_mem_append] at areRuns
    obtain ⟨areLast, arePrevious, -⟩ := areRuns
    rw [concludeM]
    exact (mergeRunsM_yields answers arePrevious areLast patience).bind .pure
  | case4 patience last previous early rest shorter run patience' merging ih =>
    simp only [List.flatten_cons, List.forall_mem_append] at areRuns ih
    obtain ⟨areLast, arePrevious, areEarly, areRest⟩ := areRuns
    have merged := mergeRunsM_yields answers areEarly arePrevious patience
    have areRun : ∀ item ∈ (mergeRuns less early previous patience).1, isOne item :=
      forall_mergeRuns areEarly arePrevious patience
    rw [merging] at merged areRun
    rw [concludeM, if_pos shorter]
    exact merged.bind (ih ⟨areLast, areRun, areRest⟩)
  | case5 patience last previous early rest longer run patience' merging ih =>
    simp only [List.flatten_cons, List.forall_mem_append] at areRuns ih
    obtain ⟨areLast, arePrevious, areEarly, areRest⟩ := areRuns
    have merged := mergeRunsM_yields answers arePrevious areLast patience
    have areRun : ∀ item ∈ (mergeRuns less previous last patience).1, isOne item :=
      forall_mergeRuns arePrevious areLast patience
    rw [merging] at merged areRun
    rw [concludeM, if_neg longer]
    exact merged.bind (ih ⟨areRun, areEarly, areRest⟩)

/-- Sorting gives what the sort with the answers does, or fails if a comparison of two items of the list
may fail. -/
theorem sortM_yields {items : List Item} (areItems : ∀ item ∈ items, isOne item) :
    Yields mayFail (sortM less? items) (sort less items) := by
  have none : AllHold isOne ([] : List (Waiting Item)) := by simp [AllHold, held]
  refine (collectM_yields answers items.length 0 areItems none longLeap).bind
    (concludeM_yields answers (fun item isItem => ?_) _)
  have collected := collect_perm less items.length 0 items [] longLeap
  have isHeld := collected.subset isItem
  exact areItems item (by simpa [held] using isHeld)

end Merging

end Ranking

end Switchboard
