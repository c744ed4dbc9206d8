import Switchboard.Proofs.Ranking.Runs

/-!
# A merge links what it places

While a merge goes on, what it has placed may be followed by the rest of either side. This is the
invariant: the items placed so far, with the rest of the left side behind them or with the rest of
the right side behind them, are linked all along. A step keeps it because it places items of one
side only up to a boundary, and the two items next to a boundary were both compared with the first
item of the other side.

In addition the last item of the right side is linked to the last one of the left side, which is
how the merge ends when one item is left. A merge from the end is a merge of the two runs turned
round, with links turned round as well, so that the invariant is proved once for both.
-/

namespace Switchboard.Ranking

variable {Item : Type}

/-- The last item of the rest of a list is the last item of the list. -/
theorem getLast?_of_drop {items : List Item} {count : Nat} {last : Item}
    (isLast : last ∈ (items.drop count).getLast?) : last ∈ items.getLast? := by
  rw [List.getLast?_drop] at isLast
  split at isLast
  · simp at isLast
  · exact isLast

namespace Merge

/-- What there still is on a side. -/
def on (merge : Merge Item) : Side → List Item
  | .left => merge.left
  | .right => merge.right

/-- What is placed is gone from its side. -/
@[simp] theorem on_take_self (side : Side) (count : Nat) (merge : Merge Item) :
    (merge.take side count).on side = (merge.on side).drop count := by
  cases side <;> rfl

/-- The other side is as it was. -/
@[simp] theorem on_take_other (side : Side) (count : Nat) (merge : Merge Item) :
    (merge.take side count).on side.other = merge.on side.other := by
  cases side <;> rfl

/-- What is placed stands at the end of what was placed before. -/
@[simp] theorem placed_take (side : Side) (count : Nat) (merge : Merge Item) :
    (merge.take side count).placed = merge.placed ++ (merge.on side).take count := by
  cases side <;> rfl

/-- The other side of the other side is the side itself. -/
@[simp] theorem other_other (side : Side) : side.other.other = side := by
  cases side <;> rfl

/-- While anything is left to compare, there are items on both sides. -/
theorem on_ne_nil {merge : Merge Item} (unsettled : merge.isSettled = false) (side : Side) :
    merge.on side ≠ [] := by
  simp only [isSettled, Bool.or_eq_false_iff, decide_eq_false_iff_not,
    List.isEmpty_eq_false_iff] at unsettled
  cases side with
  | left =>
    intro empty
    have empty : merge.left = [] := empty
    simp [empty] at unsettled
  | right => exact unsettled.2

/-!
What a merge places is what the two sides hold.
-/

/-- To place items keeps all there are. -/
theorem result_take_perm (side : Side) (count : Nat) (merge : Merge Item) :
    (merge.take side count).result.Perm merge.result := by
  cases side with
  | left =>
    have swapped : (merge.left.take count ++ (merge.right ++ merge.left.drop count)).Perm
        (merge.right ++ (merge.left.take count ++ merge.left.drop count)) :=
      List.perm_append_comm_assoc _ _ _
    simpa [result, take] using swapped.append_left merge.placed
  | right => simp [result, take]

/-- To move on keeps all items. -/
theorem result_moveOn_perm (side : Side) (merge : Merge Item) :
    (merge.moveOn side).result.Perm merge.result := by
  unfold moveOn
  split
  · exact .refl _
  · exact result_take_perm side 1 merge

variable (direction : Direction) (before : Item → Item → Bool)

/-- A leap keeps all items. -/
theorem result_leapOn_perm (side : Side) (merge : Merge Item) :
    (merge.leapOn direction before side).1.result.Perm merge.result := by
  unfold leapOn
  split
  · exact .refl _
  · exact result_take_perm side _ merge

/-- A round keeps all items. -/
theorem result_round_perm (merge : Merge Item) :
    (merge.round direction before).1.result.Perm merge.result :=
  (result_moveOn_perm _ _).trans <| (result_leapOn_perm direction before _ _).trans <|
    (result_moveOn_perm _ _).trans (result_leapOn_perm direction before _ _)

/-- A pace leaves the result alone. -/
@[simp] theorem result_paced (merge : Merge Item) (wins : Nat) (pace : Pace) :
    (merge.paced wins pace).result = merge.result := rfl

/-- A new pace leaves what is placed and both sides alone. -/
theorem repaced_sides (merge : Merge Item) (wins : Nat) :
    (merge.repaced wins).placed = merge.placed ∧ (merge.repaced wins).left = merge.left ∧
      (merge.repaced wins).right = merge.right := by
  unfold repaced
  split
  · exact ⟨rfl, rfl, rfl⟩
  · split <;> exact ⟨rfl, rfl, rfl⟩

/-- A new pace leaves the result alone. -/
@[simp] theorem result_repaced (merge : Merge Item) (wins : Nat) :
    (merge.repaced wins).result = merge.result := by
  obtain ⟨placed, left, right⟩ := repaced_sides merge wins
  simp only [result, placed, left, right]

/-- A step keeps all items. -/
theorem result_step_perm (merge : Merge Item) :
    (merge.step direction before).result.Perm merge.result := by
  unfold step
  split
  · simpa using result_round_perm direction before merge
  · split <;> simpa using result_take_perm _ 1 merge
  · exact .refl _

/-- A merge keeps all items. -/
theorem result_run_perm (merge : Merge Item) :
    (merge.run direction before).result.Perm merge.result := by
  fun_induction run direction before merge with
  | case1 => exact .refl _
  | case2 merge _ ih => exact ih.trans (result_step_perm direction before merge)

/-- What is merged has the items of both sides. -/
theorem merged_perm (left right : List Item) (patience : Nat) :
    (merged direction before left right patience).1.Perm (right ++ left) := by
  have placed := result_run_perm direction before
    { placed := right.take 1, left, right := right.drop 1, patience }
  simp only [result, List.take_append_drop] at placed
  exact placed

/-!
What a merge places is linked.
-/

section Linking

variable (link : Item → Item → Prop)

/-- What is placed may be followed by the rest of either side, in front of `front` and behind
`back`. -/
structure Joins (front back : List Item) (merge : Merge Item) : Prop where
  sides : ∀ side, (front ++ merge.placed ++ merge.on side ++ back).IsChain link
  ends : ∀ last ∈ merge.left.getLast?, ∀ final ∈ merge.right.getLast?, link final last

/-- The first item of a side may be followed by the first one of the other side. -/
def Faces (side : Side) (merge : Merge Item) : Prop :=
  ∀ item ∈ (merge.on side).head?, ∀ other ∈ (merge.on side.other).head?, link item other

/-- Whatever the comparison of two items on different sides says, one of them may follow the
other. -/
structure Agrees : Prop where
  right : ∀ other item, before other item = true → link other item
  left : ∀ item other, before other item = false → link item other

variable {link} {before} {front back : List Item} {merge : Merge Item}

/-- Nothing else counts for the invariant than what is placed and what there is on either side. -/
theorem Joins.congr {other : Merge Item} (joins : merge.Joins link front back)
    (placed : other.placed = merge.placed) (left : other.left = merge.left)
    (right : other.right = merge.right) : other.Joins link front back := by
  refine ⟨fun side => ?_, by rw [left, right]; exact joins.ends⟩
  have same : other.on side = merge.on side := by cases side <;> assumption
  rw [placed, same]
  exact joins.sides side

/-- When all is settled, the right side may follow what is placed, and the left side that. -/
theorem Joins.result_linked (joins : merge.Joins link front back)
    (settled : merge.isSettled = true) : (front ++ merge.result ++ back).IsChain link := by
  have left : (front ++ merge.placed ++ merge.left ++ back).IsChain link := joins.sides .left
  have right : (front ++ merge.placed ++ merge.right ++ back).IsChain link := joins.sides .right
  cases rest : merge.right with
  | nil => simpa [result, rest] using left
  | cons other others =>
    cases last : merge.left with
    | nil => simpa [result, last] using right
    | cons item items =>
      have alone : items = [] := by
        simpa [isSettled, rest, last, ← List.length_eq_zero_iff] using settled
      subst alone
      rw [last] at left
      have behind : ([item] ++ back).IsChain link := by
        rw [List.append_assoc] at left
        exact left.right_of_append
      have joined : (front ++ merge.placed ++ merge.right ++ ([item] ++ back)).IsChain link := by
        refine right.left_of_append.append behind ?_
        intro final isFinal first isFirst
        have same : item = first := by simpa using isFirst
        subst same
        rw [List.getLast?_append_of_ne_nil _ (by simp [rest])] at isFinal
        exact joins.ends item (by simp [last]) final isFinal
      simpa [result, last, rest] using joined

/-- What is placed may be followed by a side, also with more placed in between, if the last of that
may be followed by the first item of the side. -/
theorem isChain_placed {placed items facing : List Item}
    (own : (front ++ (placed ++ items)).IsChain link)
    (faced : (front ++ placed ++ facing ++ back).IsChain link) (some : facing ≠ [])
    (meets : ∀ last ∈ items.getLast?, ∀ other ∈ facing.head?, link last other) :
    (front ++ (placed ++ items) ++ facing ++ back).IsChain link := by
  by_cases none : items = []
  · simpa [none] using faced
  · have rest : (facing ++ back).IsChain link := by
      rw [List.append_assoc] at faced
      exact faced.right_of_append
    rw [List.append_assoc]
    refine own.append rest ?_
    intro last isLast other isOther
    rw [← List.append_assoc, List.getLast?_append_of_ne_nil _ none] at isLast
    rw [List.head?_append_of_ne_nil _ some] at isOther
    exact meets last isLast other isOther

/-- Items of a side are placed, the last of which may be followed by the first item of the other
side. -/
theorem Joins.take (joins : merge.Joins link front back) (side : Side) (count : Nat)
    (facing : merge.on side.other ≠ [])
    (meets : ∀ last ∈ ((merge.on side).take count).getLast?,
      ∀ other ∈ (merge.on side.other).head?, link last other) :
    (merge.take side count).Joins link front back := by
  have own : (front ++ (merge.placed ++ (merge.on side).take count) ++
      (merge.on side).drop count ++ back).IsChain link := by
    simpa using joins.sides side
  have others : (front ++ (merge.placed ++ (merge.on side).take count) ++
      merge.on side.other ++ back).IsChain link :=
    isChain_placed own.left_of_append.left_of_append (joins.sides side.other) facing meets
  constructor
  · intro either
    rw [placed_take]
    by_cases same : either = side
    · subst same
      rw [on_take_self]
      exact own
    · have opposite : either = side.other := by cases either <;> cases side <;> trivial
      subst opposite
      rw [on_take_other]
      exact others
  · intro last isLast final isFinal
    cases side with
    | left =>
      have kept : last ∈ merge.left.getLast? := getLast?_of_drop isLast
      exact joins.ends last kept final isFinal
    | right =>
      have kept : final ∈ merge.right.getLast? := getLast?_of_drop isFinal
      exact joins.ends last isLast final kept

/-- A merge that moves on with the item that is first still joins. -/
theorem Joins.moveOn {side : Side} (joins : merge.Joins link front back)
    (faces : merge.isSettled = false → merge.Faces link side) :
    (merge.moveOn side).Joins link front back := by
  unfold Merge.moveOn
  split
  · exact joins
  · rename_i unsettled
    have unsettled := Bool.eq_false_iff.mpr unsettled
    apply joins.take side 1 (on_ne_nil unsettled side.other)
    intro last isLast other isOther
    have isFirst : last ∈ (merge.on side).head? := by
      cases items : merge.on side with
      | nil => simp [items] at isLast
      | cons first rest => simpa [items] using isLast
    exact faces unsettled last isFirst other isOther

variable (before) in

/-- The items of a side that come before the first one of the other end at a boundary. -/
theorem lead_boundary (side : Side) {other : Item}
    (first : (merge.on side.other).head? = some other) :
    Boundary (fun item => match side with
      | .left => !before other item
      | .right => before item other)
      (merge.on side) (merge.lead direction before side) := by
  cases side with
  | left =>
    cases items : merge.right with
    | nil => simp [on, Side.other, items] at first
    | cons head rest =>
      have same : head = other := by simpa [on, Side.other, items] using first
      subst same
      simpa [lead, items, on] using
        leap_boundary direction (fun item => !before head item) merge.left
  | right =>
    cases items : merge.left with
    | nil => simp [on, Side.other, items] at first
    | cons head rest =>
      have same : head = other := by simpa [on, Side.other, items] using first
      subst same
      simpa [lead, items, on] using
        leap_boundary direction (fun item => before item head) merge.right

/-- After a leap of one side, the first item of the other may go on. The leap has compared it with
the last item placed and with the first that was not. -/
theorem Joins.leapOn (agrees : Agrees before link) (joins : merge.Joins link front back)
    (side : Side) :
    (merge.leapOn direction before side).1.Joins link front back ∧
      ((merge.leapOn direction before side).1.isSettled = false →
        (merge.leapOn direction before side).1.Faces link side.other) := by
  unfold Merge.leapOn
  split
  · rename_i settled
    exact ⟨joins, fun unsettled => by simp [settled] at unsettled⟩
  · rename_i unsettled
    have unsettled := Bool.eq_false_iff.mpr unsettled
    have facing := on_ne_nil unsettled side.other
    obtain ⟨other, rest, items⟩ := List.exists_cons_of_ne_nil facing
    have isOther : (merge.on side.other).head? = some other := by simp [items]
    have found := lead_boundary direction before side isOther
    constructor
    · apply joins.take side _ facing
      intro last isLast first isFirst
      have same : other = first := by simpa [isOther] using isFirst
      subst same
      have isAhead := found.before last isLast
      cases side with
      | left => exact agrees.left last other (by simpa using isAhead)
      | right => exact agrees.right last other isAhead
    · intro _ first isFirst item isItem
      rw [on_take_other, isOther] at isFirst
      have same : other = first := Option.mem_some.mp isFirst
      subst same
      rw [other_other, on_take_self] at isItem
      have isBehind := found.behind item isItem
      cases side with
      | left => exact agrees.right other item (by simpa using isBehind)
      | right => exact agrees.left other item isBehind

/-- A merge still joins after a round. -/
theorem Joins.round (agrees : Agrees before link) (joins : merge.Joins link front back) :
    (merge.round direction before).1.Joins link front back := by
  let first := opening direction
  obtain ⟨opened, answers⟩ := joins.leapOn direction agrees first
  obtain ⟨answered, closes⟩ := (opened.moveOn answers).leapOn direction agrees first.other
  rw [other_other] at closes
  exact answered.moveOn closes

/-- A step keeps the invariant. -/
theorem Joins.step (agrees : Agrees before link) (joins : merge.Joins link front back) :
    (merge.step direction before).Joins link front back := by
  unfold Merge.step
  split
  · obtain ⟨placed, left, right⟩ := repaced_sides (merge.round direction before).1
      (max (merge.round direction before).2.1 (merge.round direction before).2.2)
    exact (joins.round direction agrees).congr placed left right
  · rename_i lefts rights item items other others pace left right
    by_cases comes : before other item = true
    · simp only [comes, if_true]
      have taken := joins.take .right 1 (by simp [on, Side.other, left]) (by
        simpa [on, Side.other, left, right] using agrees.right other item comes)
      exact taken.congr rfl rfl rfl
    · simp only [comes]
      have taken := joins.take .left 1 (by simp [on, Side.other, right]) (by
        simpa [on, Side.other, left, right] using
          agrees.left item other (Bool.eq_false_iff.mpr comes))
      exact taken.congr rfl rfl rfl
  · exact joins

/-- What a merge comes to is linked. The induction is on the steps, each of which keeps the
invariant. -/
theorem Joins.run (agrees : Agrees before link) (joins : merge.Joins link front back) :
    (front ++ (merge.run direction before).result ++ back).IsChain link := by
  fun_induction Merge.run direction before merge with
  | case1 merge settled => exact joins.result_linked settled
  | case2 merge _ ih => exact ih (joins.step direction agrees)

end Linking

end Merge

section Overlapping

variable (link : Item → Item → Prop)

/-- Two runs with what stays in front of the first and behind the second. The rest of the first
run and the front of the second are to be merged: the latter begins with what comes first, the
former ends with what comes last. -/
structure Overlap (front lower upper back : List Item) : Prop where
  first : (front ++ lower).IsChain link
  second : (upper ++ back).IsChain link
  frontUpper : ∀ last ∈ front.getLast?, ∀ head ∈ upper.head?, link last head
  upperLower : ∀ head ∈ upper.head?, ∀ item ∈ lower.head?, link head item
  finalLast : ∀ final ∈ upper.getLast?, ∀ last ∈ lower.getLast?, link final last
  lowerBack : ∀ last ∈ lower.getLast?, ∀ item ∈ back.head?, link last item

variable {link} {front lower upper back : List Item}

/-- Read from the end, with links turned round, the two runs overlap as well. -/
theorem Overlap.turned (overlap : Overlap link front lower upper back) :
    Overlap (fun item next => link next item) back.reverse upper.reverse lower.reverse
      front.reverse where
  first := by
    rw [← List.reverse_append, List.isChain_reverse]
    exact overlap.second
  second := by
    rw [← List.reverse_append, List.isChain_reverse]
    exact overlap.first
  frontUpper := by
    intro item isItem last isLast
    exact overlap.lowerBack last (by simpa using isLast) item (by simpa using isItem)
  upperLower := by
    intro last isLast final isFinal
    exact overlap.finalLast final (by simpa using isFinal) last (by simpa using isLast)
  finalLast := by
    intro item isItem head isHead
    exact overlap.upperLower head (by simpa using isHead) item (by simpa using isItem)
  lowerBack := by
    intro head isHead last isLast
    exact overlap.frontUpper last (by simpa using isLast) head (by simpa using isHead)

/-- A merge begins with the first item of the second run, so that the invariant holds from the
start. -/
theorem Overlap.joins (overlap : Overlap link front lower upper back) (lowerSome : lower ≠ [])
    (upperSome : upper ≠ []) (patience : Nat) :
    Merge.Joins link front back
      { placed := upper.take 1, left := lower, right := upper.drop 1, patience } := by
  obtain ⟨head, rest, items⟩ := List.exists_cons_of_ne_nil upperSome
  have behind : (lower ++ back).IsChain link :=
    overlap.first.right_of_append.append overlap.second.right_of_append overlap.lowerBack
  constructor
  · intro side
    cases side with
    | left =>
      have headed : (head :: (lower ++ back)).IsChain link := by
        refine behind.cons fun item isItem => ?_
        rw [List.head?_append_of_ne_nil _ lowerSome] at isItem
        exact overlap.upperLower head (by simp [items]) item isItem
      have joined := overlap.first.left_of_append.append headed (by
        intro last isLast first isFirst
        have same : head = first := by simpa using isFirst
        subst same
        exact overlap.frontUpper last isLast head (by simp [items]))
      simpa [Merge.on, items] using joined
    | right =>
      have joined := overlap.first.left_of_append.append overlap.second (by
        intro last isLast first isFirst
        rw [List.head?_append_of_ne_nil _ upperSome] at isFirst
        exact overlap.frontUpper last isLast first isFirst)
      simpa [Merge.on, items] using joined
  · intro last isLast final isFinal
    exact overlap.finalLast final (getLast?_of_drop isFinal) last isLast

/-- Merging two runs that overlap links all that stands in their place. -/
theorem Overlap.merged (direction : Direction) {before : Item → Item → Bool}
    (agrees : Merge.Agrees before link) (overlap : Overlap link front lower upper back)
    (lowerSome : lower ≠ []) (upperSome : upper ≠ []) (patience : Nat) :
    (front ++ (Merge.merged direction before lower upper patience).1 ++ back).IsChain link :=
  (overlap.joins lowerSome upperSome patience).run direction agrees

end Overlapping

variable (less : Item → Item → Bool)

/-- A comparison agrees with the links that it makes. -/
theorem agrees_linked (asymmetric : Asymmetric less) : Merge.Agrees less (Linked less) where
  right := fun other item precedes => asymmetric other item precedes
  left := fun _ _ stays => stays

/-- A comparison that is turned round agrees with the links turned round. -/
theorem agrees_turned (asymmetric : Asymmetric less) :
    Merge.Agrees (fun left right => less right left) (fun item next => Linked less next item) where
  right := fun other item precedes => asymmetric item other precedes
  left := fun _ _ stays => stays

end Switchboard.Ranking
