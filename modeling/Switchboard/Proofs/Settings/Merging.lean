import Switchboard.Settings.Tree

/-!
# What merged trees are made of

Merged branches hold, under every key, what the one or the other side holds there, or the two
merged. So whatever is closed under opening a map and under making a new one is kept by a merge
(`merge?_preserves`).
-/

namespace Switchboard

/-- A map is a map. -/
@[simp] theorem Tree.map?_map (shelf : Shelf) (origin : Origin) (branches : Branches) :
    (Tree.map origin branches).map? shelf = some (origin, branches) := rfl

namespace Settings

section Lookup

variable {merge : Scalar → Tree → Tree → Option Tree} {lower upper merged : Branches}
  {key : Scalar}

/-- Every lower branch is merged with what the upper ones hold under its key. -/
theorem get?_mergeLower (made : mergeLower merge lower upper = some merged) (key : Scalar) :
    match Entries.get? key lower with
    | none => Entries.get? key merged = none
    | some tree => ∃ named result, (named == key) = true ∧
        mergeUnder merge named tree upper = some result ∧
          Entries.get? key merged = some result := by
  induction lower generalizing merged with
  | nil =>
    obtain rfl : [] = merged := by simpa [mergeLower] using made
    rfl
  | cons branch rest ih =>
    obtain ⟨named, tree⟩ := branch
    simp only [mergeLower, Option.pure_def, Option.bind_eq_bind, Option.bind_eq_some_iff,
      Option.some.injEq] at made
    obtain ⟨first, firstMade, others, othersMade, rfl⟩ := made
    cases same : named == key with
    | true =>
      simp only [Entries.get?, same, if_true]
      exact ⟨named, first, same, firstMade, rfl⟩
    | false =>
      simpa only [Entries.get?, same, Bool.false_eq_true, if_false] using ih othersMade

/-- Every merged branch was a lower one. -/
theorem mem_mergeLower (made : mergeLower merge lower upper = some merged) {branch : Scalar × Tree}
    (member : branch ∈ merged) :
    ∃ tree, (branch.1, tree) ∈ lower ∧ mergeUnder merge branch.1 tree upper = some branch.2 := by
  induction lower generalizing merged with
  | nil =>
    obtain rfl : [] = merged := by simpa [mergeLower] using made
    contradiction
  | cons old rest ih =>
    simp only [mergeLower, Option.pure_def, Option.bind_eq_bind, Option.bind_eq_some_iff,
      Option.some.injEq] at made
    obtain ⟨first, firstMade, others, othersMade, rfl⟩ := made
    rcases List.mem_cons.mp member with rfl | later
    · exact ⟨old.2, List.mem_cons_self, firstMade⟩
    · obtain ⟨tree, among, under⟩ := ih othersMade later
      exact ⟨tree, List.mem_cons_of_mem _ among, under⟩

/-- What is new is what stands above, where the lower map has nothing. -/
theorem get?_newBranches (lower upper : Branches) (key : Scalar)
    (lacks : Entries.get? key lower = none) :
    Entries.get? key (newBranches lower upper) = Entries.get? key upper := by
  induction upper with
  | nil => rfl
  | cons branch rest ih =>
    cases same : branch.1 == key with
    | true =>
      have kept : Entries.has branch.1 lower = false := by
        simp [Entries.has, Entries.get?_congr same, lacks]
      simp [newBranches, Entries.get?, same, kept]
    | false =>
      unfold newBranches at ih
      cases kept : Entries.has branch.1 lower <;>
        simp [newBranches, Entries.get?, same, kept, ih]

/-- Under a key of the upper map alone is what it has there. -/
theorem get?_merged_of_new (made : mergeLower merge lower upper = some merged)
    (lacks : Entries.get? key lower = none) :
    Entries.get? key (merged ++ newBranches lower upper) = Entries.get? key upper := by
  have here := get?_mergeLower made key
  simp only [lacks] at here
  simp [Entries.get?_append, here, get?_newBranches lower upper key lacks]

/-- Under a key of the lower map alone is what it has there. -/
theorem get?_merged_of_kept {tree : Tree} (made : mergeLower merge lower upper = some merged)
    (below : Entries.get? key lower = some tree) (lacks : Entries.get? key upper = none) :
    Entries.get? key (merged ++ newBranches lower upper) = some tree := by
  have here := get?_mergeLower made key
  simp only [below] at here
  obtain ⟨named, result, same, resultMade, found⟩ := here
  obtain rfl : tree = result := by
    simpa [mergeUnder, Entries.get?_congr same, lacks] using resultMade
  simp [Entries.get?_append, found]

/-- Under a key of both maps is what these two merge into. -/
theorem get?_merged_of_both {tree higher : Tree} (made : mergeLower merge lower upper = some merged)
    (below : Entries.get? key lower = some tree) (above : Entries.get? key upper = some higher) :
    ∃ named result, merge named tree higher = some result ∧
      Entries.get? key (merged ++ newBranches lower upper) = some result := by
  have here := get?_mergeLower made key
  simp only [below] at here
  obtain ⟨named, result, same, resultMade, found⟩ := here
  refine ⟨named, result, ?_, by simp [Entries.get?_append, found]⟩
  simpa [mergeUnder, Entries.get?_congr same, above] using resultMade

end Lookup

variable {shelf : Shelf} {moment : Nat}

/-- Two maps are merged branch by branch; of anything else the upper tree is left. -/
theorem merge?_cases {fuel : Nat} {path : List Scalar} {lower upper merged : Tree}
    (made : merge? shelf moment fuel path lower upper = some merged) :
    (∃ less lowOrigin below highOrigin above found, fuel = less + 1 ∧
      lower.map? shelf = some (lowOrigin, below) ∧ upper.map? shelf = some (highOrigin, above) ∧
      mergeLower (fun key => merge? shelf moment less (path ++ [key])) below above = some found ∧
      merged = .map (.made moment path) (found ++ newBranches below above)) ∨
    ((lower.map? shelf = none ∨ upper.map? shelf = none) ∧ merged = upper) := by
  cases fuel with
  | zero => simp [merge?] at made
  | succ fuel =>
    unfold merge? at made
    cases isLow : lower.map? shelf with
    | none => exact .inr ⟨.inl rfl, by simpa [isLow, eq_comm] using made⟩
    | some low =>
      cases isHigh : upper.map? shelf with
      | none => exact .inr ⟨.inr rfl, by simpa [isLow, isHigh, eq_comm] using made⟩
      | some high =>
        simp only [isLow, isHigh, Option.pure_def, Option.bind_eq_bind, Option.bind_eq_some_iff,
          Option.some.injEq] at made
        obtain ⟨found, foundMade, rfl⟩ := made
        exact .inl ⟨fuel, low.1, low.2, high.1, high.2, found, rfl, rfl, rfl, foundMade, rfl⟩

section Preservation

variable {good : Tree → Prop}

/-- What each merge preserves is preserved in all entries. -/
theorem mergeLower_preserves {merge : Scalar → Tree → Tree → Option Tree}
    {lower upper merged : Branches}
    (step : ∀ key tree higher result, merge key tree higher = some result → good tree →
      good higher → good result)
    (lowerGood : ∀ branch ∈ lower, good branch.2) (upperGood : ∀ branch ∈ upper, good branch.2)
    (made : mergeLower merge lower upper = some merged) : ∀ branch ∈ merged, good branch.2 := by
  intro branch member
  obtain ⟨tree, among, under⟩ := mem_mergeLower made member
  unfold mergeUnder at under
  cases above : Entries.get? branch.1 upper with
  | none =>
    obtain rfl : tree = branch.2 := by simpa [above] using under
    exact lowerGood _ among
  | some higher =>
    obtain ⟨other, isUpper, _⟩ := Entries.exists_mem_of_get? above
    exact step branch.1 tree higher branch.2 (by simpa [above] using under)
      (lowerGood (branch.1, tree) among) (upperGood (other, higher) isUpper)

/-- Branches that are good make good merged branches. -/
theorem merged_preserves {merge : Scalar → Tree → Tree → Option Tree} {lower upper found : Branches}
    (step : ∀ key tree higher result, merge key tree higher = some result → good tree →
      good higher → good result)
    (lowerGood : ∀ branch ∈ lower, good branch.2) (upperGood : ∀ branch ∈ upper, good branch.2)
    (made : mergeLower merge lower upper = some found) :
    ∀ branch ∈ found ++ newBranches lower upper, good branch.2 := by
  intro branch member
  rcases List.mem_append.mp member with merged | added
  · exact mergeLower_preserves step lowerGood upperGood made branch merged
  · exact upperGood branch ((List.mem_filter.mp added).1)

variable
  (opens : ∀ tree owner branches, good tree → tree.map? shelf = some (owner, branches) →
    ∀ branch ∈ branches, good branch.2)
  (closes : ∀ path branches, (∀ branch ∈ branches, good branch.2) →
    good (.map (.made moment path) branches))
include opens closes

/-- What holds of two trees, of the maps made of them and of what lies on the shelf holds of their
merge. -/
theorem merge?_preserves {fuel : Nat} {path : List Scalar} {lower upper merged : Tree}
    (made : merge? shelf moment fuel path lower upper = some merged) (lowerGood : good lower)
    (upperGood : good upper) : good merged := by
  induction fuel generalizing path lower upper merged with
  | zero => simp [merge?] at made
  | succ fuel ih =>
    obtain ⟨less, lowOrigin, low, highOrigin, high, found, same, isLow, isHigh, foundMade, rfl⟩ |
      ⟨_, rfl⟩ := merge?_cases made
    · obtain rfl : fuel = less := by simpa using same
      exact closes path _ (merged_preserves (fun key tree higher result known => ih known)
        (opens lower lowOrigin low lowerGood isLow) (opens upper highOrigin high upperGood isHigh)
        foundMade)
    · exact upperGood

variable (good) in

/-- What holds of the entries of two maps holds of those that they merge into. -/
theorem mergeBranches?_preserves {lower upper merged : Branches}
    (made : mergeBranches? shelf moment lower upper = some merged)
    (lowerGood : ∀ branch ∈ lower, good branch.2) (upperGood : ∀ branch ∈ upper, good branch.2) :
    ∀ branch ∈ merged, good branch.2 := by
  simp only [mergeBranches?, Option.pure_def, Option.bind_eq_bind, Option.bind_eq_some_iff,
    Option.some.injEq] at made
  obtain ⟨found, foundMade, rfl⟩ := made
  exact merged_preserves (fun key tree higher result known => merge?_preserves opens closes known)
    lowerGood upperGood foundMade

end Preservation

end Settings

end Switchboard
