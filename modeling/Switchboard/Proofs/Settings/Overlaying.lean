import Switchboard.Proofs.Settings.Amending

/-!
# Layers over a map that is written into

What a path leads to in merged layers comes from the highest layer that speaks about the path, and then
it is new; where all layers are silent it is the map of the lowest one, which is shared. A write into
that map commutes with laying layers over it that are silent wherever the map stands (`merge?_amend`).
-/

namespace Switchboard

namespace Tree

variable {shelf : Shelf} {tree : Tree} {path : List Scalar}

/-- What stands in the way of a path stands in the way of its rest, below the first key. -/
theorem content_before_cons_iff {found : Origin × Branches} {key : Scalar} {inner : Tree}
    (isMap : tree.map? shelf = some found) (here : Entries.get? key found.2 = some inner)
    (rest : List Scalar) :
    (∃ front value, front <+: key :: rest ∧ front ≠ key :: rest ∧
        tree.holding shelf front = .content value) ↔
      ∃ front value, front <+: rest ∧ front ≠ rest ∧ inner.holding shelf front = .content value := by
  have below (front : List Scalar) :
      tree.holding shelf (key :: front) = inner.holding shelf front := by
    rw [holding_cons_of_map isMap, here]
  constructor
  · rintro ⟨front, value, isFront, notAll, content⟩
    cases front with
    | nil => simp [holding_nil_of_map isMap] at content
    | cons other front =>
      obtain ⟨rfl, isRest⟩ := List.cons_prefix_cons.mp isFront
      exact ⟨front, value, isRest, by simpa using notAll, (below front).symm.trans content⟩
  · rintro ⟨front, value, isFront, notAll, content⟩
    exact ⟨key :: front, value, List.cons_prefix_cons.mpr ⟨rfl, isFront⟩, by simpa using notAll,
      (below front).trans content⟩

/-- Nothing stands in the way of a path whose first key is missing in a map. -/
theorem not_content_before_of_missing {found : Origin × Branches} {key : Scalar}
    (isMap : tree.map? shelf = some found) (missing : Entries.get? key found.2 = none)
    (rest : List Scalar) :
    ¬∃ front value, front <+: key :: rest ∧ front ≠ key :: rest ∧
      tree.holding shelf front = .content value := by
  rintro ⟨front, value, isFront, -, content⟩
  cases front with
  | nil => simp [holding_nil_of_map isMap] at content
  | cons other front =>
    obtain ⟨rfl, -⟩ := List.cons_prefix_cons.mp isFront
    simp [holding_cons_of_map isMap, missing] at content

/-- A tree speaks about a path where it has something at its end, or something other than a map before. -/
theorem speaksOf_iff : tree.speaksOf shelf path = true ↔ tree.holding shelf path ≠ .nothing ∨
    ∃ front value, front <+: path ∧ front ≠ path ∧ tree.holding shelf front = .content value := by
  induction path generalizing tree with
  | nil =>
    have something : tree.holding shelf [] ≠ .nothing := by
      simp only [holding, at?]
      split <;> simp
    simp [speaksOf, something]
  | cons key rest ih =>
    cases isMap : tree.map? shelf with
    | none =>
      have noMap : tree.kind shelf ≠ .map := by simp [kind_eq_map_iff, isMap]
      have content : tree.holding shelf [] = .content (tree.value shelf) := by
        simp [holding, at?, noMap]
      simp only [speaksOf, isMap, true_iff]
      exact .inr ⟨[], _, List.nil_prefix, by simp, content⟩
    | some found =>
      rw [speaksOf_cons_of_map isMap, holding_cons_of_map isMap]
      cases here : Entries.get? key found.2 with
      | none =>
        have nothing := not_content_before_of_missing isMap here rest
        simpa only [ne_eq, not_true_eq_false, false_or, Bool.false_eq_true, false_iff] using nothing
      | some inner => rw [content_before_cons_iff isMap here rest, ← ih]

/-- Where a tree is silent no map is. -/
theorem mapAt?_of_silent (silent : tree.speaksOf shelf path = false) :
    tree.mapAt? shelf path = none := by
  cases here : tree.mapAt? shelf path with
  | none => rfl
  | some found =>
    have isMap := (holding_eq_map_iff path).mpr (Option.isSome_iff_exists.mpr ⟨found, here⟩)
    rw [holding_of_silent shelf tree path silent] at isMap
    contradiction

/-- A write leaves every map a map: the one written into gets other branches. -/
theorem map?_amend {edit : Settings.Edit}
    (absent : ∀ found ∈ shelf.maps, (found.1 == edit.target) = false) (tree : Tree) :
    (tree.amend edit).map? shelf = (tree.map? shelf).map fun found =>
      (found.1, branchesAfter edit found) := by
  have amended := map?_amended edit shelf tree
  rwa [Shelf.amend_of_absent absent] at amended

end Tree

namespace Settings

section Reached

variable {shelf : Shelf} {moment : Nat} (shelfNew : ∀ found ∈ shelf.maps, found.1.IsNew moment)
include shelfNew

/-- What a path leads to in a tree that is all new is new. -/
theorem isNew_of_mapAt? {tree : Tree} {path : List Scalar} {found : Origin × Branches}
    (treeNew : ∀ found ∈ tree.maps, found.1.IsNew moment)
    (here : tree.mapAt? shelf path = some found) : found.1.IsNew moment :=
  (Tree.mem_maps_of_mapAt? here).elim (treeNew found) (shelfNew found)

/-- A step of a merge that is right about where a path leads makes the merge of branches right about
where the path leads below a key. -/
theorem mapAt?_merged {merge : Scalar → Tree → Tree → Option Tree} {lower upper found : Branches}
    (lowOrigin highOrigin origin : Origin) {rest : List Scalar} {result : Origin × Branches}
    (right : ∀ named tree higher merged, merge named tree higher = some merged →
      (∀ found ∈ higher.maps, found.1.IsNew moment) → merged.mapAt? shelf rest = some result →
      if higher.speaksOf shelf rest then result.1.IsNew moment
      else tree.mapAt? shelf rest = some result)
    (upperNew : ∀ found ∈ branchMaps upper, found.1.IsNew moment)
    (made : mergeLower merge lower upper = some found) (key : Scalar)
    (here : (Tree.map origin (found ++ newBranches lower upper)).mapAt? shelf (key :: rest) =
      some result) :
    if (Tree.map highOrigin upper).speaksOf shelf (key :: rest) then result.1.IsNew moment
    else (Tree.map lowOrigin lower).mapAt? shelf (key :: rest) = some result := by
  have higherNew : ∀ {higher}, Entries.get? key upper = some higher →
      ∀ found ∈ higher.maps, found.1.IsNew moment :=
    fun above found inside => upperNew found (mem_branchMaps_of_get? above inside)
  rw [Tree.speaksOf_cons_of_map (Tree.map?_map ..)]
  simp only [Tree.mapAt?_cons, Tree.map?_map, Option.bind_some] at here ⊢
  cases below : Entries.get? key lower with
  | none =>
    rw [get?_merged_of_new made below] at here
    cases above : Entries.get? key upper with
    | none => simp [above] at here
    | some higher =>
      simp only [above, Option.bind_some] at here
      cases speaks : higher.speaksOf shelf rest with
      | true => simpa [speaks] using isNew_of_mapAt? shelfNew (higherNew above) here
      | false => simp [Tree.mapAt?_of_silent speaks] at here
  | some tree =>
    cases above : Entries.get? key upper with
    | none => simpa [get?_merged_of_kept made below above] using here
    | some higher =>
      obtain ⟨named, merged, mergedMade, isMerged⟩ := get?_merged_of_both made below above
      simp only [isMerged, Option.bind_some] at here
      exact right named tree higher merged mergedMade (higherNew above) here

/-- A path leads to something new where the upper tree speaks about it, and else to what it leads to in
the lower one. -/
theorem mapAt?_merge {fuel : Nat} {above path : List Scalar} {lower upper merged : Tree}
    {result : Origin × Branches}
    (made : merge? shelf moment fuel above lower upper = some merged)
    (upperNew : ∀ found ∈ upper.maps, found.1.IsNew moment)
    (here : merged.mapAt? shelf path = some result) :
    if upper.speaksOf shelf path then result.1.IsNew moment
    else lower.mapAt? shelf path = some result := by
  induction path generalizing fuel above lower upper merged with
  | nil =>
    have speaks : upper.speaksOf shelf [] = true := by simp [Tree.speaksOf]
    rw [speaks, if_pos rfl]
    obtain ⟨_, _, _, _, _, _, _, _, isHigh, _, rfl⟩ | ⟨_, rfl⟩ := merge?_cases made
    · obtain rfl : _ = result := by simpa using here
      rfl
    · exact isNew_of_mapAt? shelfNew upperNew here
  | cons key rest ih =>
    obtain ⟨_, lowOrigin, low, highOrigin, high, found, _, isLow, isHigh, foundMade, rfl⟩ |
      ⟨_, rfl⟩ := merge?_cases made
    · have highNew : ∀ found ∈ branchMaps high, found.1.IsNew moment := fun found inside =>
        (mem_maps_of_inside isHigh inside).elim (upperNew found) (shelfNew found)
      have step := mapAt?_merged shelfNew lowOrigin highOrigin (.made moment above)
        (fun named tree higher merged known => ih known) highNew foundMade key here
      rw [Tree.speaksOf_cons_of_map (Tree.map?_map ..)] at step
      rw [Tree.speaksOf_cons_of_map isHigh]
      simpa [Tree.mapAt?_cons, isLow] using step
    · cases speaks : merged.speaksOf shelf (key :: rest) with
      | true => exact isNew_of_mapAt? shelfNew upperNew here
      | false => simp [Tree.mapAt?_of_silent speaks] at here

/-- A map among merged entries is new where the upper ones speak of it, and else the lower one. -/
theorem mapAt?_mergeBranches {lower upper merged : Branches}
    (made : mergeBranches? shelf moment lower upper = some merged)
    (upperNew : ∀ found ∈ branchMaps upper, found.1.IsNew moment)
    (lowOrigin highOrigin origin : Origin) {key : Scalar} {rest : List Scalar}
    {result : Origin × Branches}
    (here : (Tree.map origin merged).mapAt? shelf (key :: rest) = some result) :
    if (Tree.map highOrigin upper).speaksOf shelf (key :: rest) then result.1.IsNew moment
    else (Tree.map lowOrigin lower).mapAt? shelf (key :: rest) = some result := by
  simp only [mergeBranches?, Option.pure_def, Option.bind_eq_bind, Option.bind_eq_some_iff,
    Option.some.injEq] at made
  obtain ⟨found, foundMade, rfl⟩ := made
  exact mapAt?_merged shelfNew lowOrigin highOrigin origin
    (fun named tree higher merged known => mapAt?_merge shelfNew known) upperNew foundMade key here

end Reached

end Settings

/-- Where a map stands in a tree, by the keys that lead there. -/
inductive Tree.StandsAt (target : Origin) : List Identity → Tree → Prop
  | here {origin : Origin} {branches : Branches} (same : (origin == target) = true) :
      StandsAt target [] (.map origin branches)
  | under {origin : Origin} {branches : Branches} {key : Scalar} {tree : Tree} {place : List Identity}
      (member : (key, tree) ∈ branches) (inside : StandsAt target place tree) :
      StandsAt target (key.identity :: place) (.map origin branches)

namespace Tree.StandsAt

variable {target : Origin} {place : List Identity} {tree : Tree} {shelf : Shelf}

/-- What stands in a tree is one of its maps. -/
theorem exists_maps (stands : tree.StandsAt target place) :
    ∃ found ∈ tree.maps, (found.1 == target) = true := by
  induction stands with
  | here same => exact ⟨_, List.mem_cons_self, same⟩
  | under member _ ih =>
    obtain ⟨found, inside, same⟩ := ih
    exact ⟨found, List.mem_cons_of_mem _ (mem_branchMaps.mpr ⟨_, member, inside⟩), same⟩

/-- A map stands nowhere in a tree that does not have it. -/
theorem not_of_absent (absent : ∀ found ∈ tree.maps, (found.1 == target) = false) :
    ¬tree.StandsAt target place := by
  intro stands
  obtain ⟨found, inside, same⟩ := stands.exists_maps
  rw [absent found inside] at same
  contradiction

/-- Where a map stands below another one, it stands in the tree that is this one. A map that is not on the
shelf does not stand in what is. -/
theorem of_map? {owner : Origin × Branches} (isMap : tree.map? shelf = some owner)
    (notShelved : ∀ found ∈ shelf.maps, (found.1 == target) = false)
    (stands : (Tree.map owner.1 owner.2).StandsAt target place) : tree.StandsAt target place := by
  cases tree with
  | map origin branches =>
    obtain rfl : (origin, branches) = owner := by simpa using isMap
    exact stands
  | shelved named =>
    have onShelf : owner ∈ shelf.maps := by simpa [Tree.maps] using mem_maps_of_map? isMap
    obtain ⟨found, member, same⟩ := stands.exists_maps
    have notTarget : (found.1 == target) = false := by
      rcases List.mem_cons.mp member with rfl | inside
      · exact notShelved _ onShelf
      · exact notShelved found (Shelf.maps_trans onShelf inside)
    rw [notTarget] at same
    contradiction
  | _ => simp [Tree.map?, Tree.opened] at isMap

end Tree.StandsAt

namespace Settings

section Amended

variable {moment : Nat} {edit : Edit} {shelf : Shelf}

/-- Where a write changes the merged trees as it changes the lower ones, it changes the merged branches
as it changes the lower ones. -/
theorem mergeLower_amend {merge : Scalar → Tree → Tree → Option Tree} {lower upper : Branches}
    (same : ∀ branch ∈ lower, ∀ above, Entries.get? branch.1 upper = some above →
      merge branch.1 (branch.2.amend edit) above =
        (merge branch.1 branch.2 above).map (Tree.amend edit)) :
    mergeLower merge (amendBranches edit lower) upper =
      (mergeLower merge lower upper).map (amendBranches edit) := by
  induction lower with
  | nil => rfl
  | cons branch rest ih =>
    obtain ⟨key, tree⟩ := branch
    obtain ⟨first, others⟩ := List.forall_mem_cons.mp same
    have under : mergeUnder merge key (tree.amend edit) upper =
        (mergeUnder merge key tree upper).map (Tree.amend edit) := by
      unfold mergeUnder
      cases above : Entries.get? key upper with
      | none => rfl
      | some higher => exact first higher above
    simp only [amendBranches, mergeLower, under, ih others]
    cases mergeUnder merge key tree upper with
    | none => rfl
    | some merged => cases mergeLower merge rest upper <;> rfl

/-- Which entries are new does not depend on an edit of the lower ones. -/
theorem newBranches_amend (lower upper : Branches) :
    newBranches (amendBranches edit lower) upper = newBranches lower upper := by
  have same (key : Scalar) :
      Entries.has key (lower.map fun branch => (id branch.1, branch.2.amend edit)) =
        Entries.has key lower := Entries.has_map (fun _ _ => rfl) key lower
  simp only [newBranches, amendBranches_eq_map]
  exact List.filter_congr fun branch _ => congrArg not (same branch.1)

/-- Entries one after the other are edited one after the other. -/
theorem amendBranches_append (front back : Branches) :
    amendBranches edit (front ++ back) = amendBranches edit front ++ amendBranches edit back := by
  simp [amendBranches_eq_map]

/-- What a map is silent about, what stands under a key of it is silent about as well. -/
theorem Tree.silent_under {tree inner : Tree} {found : Origin × Branches} {key : Scalar}
    {rest : List Scalar} (isMap : tree.map? shelf = some found)
    (under : Entries.get? key found.2 = some inner)
    (silent : tree.speaksOf shelf (key :: rest) = false) : inner.speaksOf shelf rest = false := by
  simpa [Tree.speaksOf_cons_of_map isMap, under] using silent

variable (older : ∀ origin : Origin, origin.IsNew moment → (origin == edit.target) = false)
include older

/-- What the upper branches add is new, and no write into older ones changes it. -/
theorem amendBranches_merged {lower upper : Branches} (merged : Branches)
    (upperNew : ∀ found ∈ branchMaps upper, found.1.IsNew moment) :
    amendBranches edit (merged ++ newBranches lower upper) =
      amendBranches edit merged ++ newBranches (amendBranches edit lower) upper := by
  have added : amendBranches edit (newBranches lower upper) = newBranches lower upper := by
    refine amendBranches_of_absent fun found member => older _ ?_
    obtain ⟨branch, among, inside⟩ := mem_branchMaps.mp member
    exact upperNew found (mem_branchMaps.mpr ⟨branch, (List.mem_filter.mp among).1, inside⟩)
  rw [amendBranches_append, added, newBranches_amend]

/-- A step of a merge that puts the map nowhere anew makes a merge of branches that does not. -/
theorem standsAt_merged {merge : Scalar → Tree → Tree → Option Tree} {lower upper found : Branches}
    {key : Identity} {rest : List Identity}
    (step : ∀ named tree higher merged, merge named tree higher = some merged →
      (∀ found ∈ higher.maps, found.1.IsNew moment) → merged.StandsAt edit.target rest →
      tree.StandsAt edit.target rest)
    (upperNew : ∀ found ∈ branchMaps upper, found.1.IsNew moment)
    (made : mergeLower merge lower upper = some found) {origin : Origin} (lowOrigin : Origin)
    (stands : (Tree.map origin (found ++ newBranches lower upper)).StandsAt edit.target (key :: rest)) :
    (Tree.map lowOrigin lower).StandsAt edit.target (key :: rest) := by
  cases stands with
  | @under _ _ named result _ member inside =>
    rcases List.mem_append.mp member with merged | added
    · obtain ⟨tree, among, under⟩ := mem_mergeLower made merged
      refine .under among ?_
      unfold mergeUnder at under
      cases above : Entries.get? named upper with
      | none =>
        obtain rfl : tree = result := by simpa [above] using under
        exact inside
      | some higher =>
        exact step named tree higher result (by simpa [above] using under)
          (fun found inHigher => upperNew found (mem_branchMaps_of_get? above inHigher)) inside
    · exact absurd inside <| Tree.StandsAt.not_of_absent fun found inResult =>
        older _ (upperNew found
          (mem_branchMaps.mpr ⟨_, (List.mem_filter.mp added).1, inResult⟩))

variable (shelfNew : ∀ found ∈ shelf.maps, found.1.IsNew moment)
include shelfNew

/-- What a merge makes and adds is new, so an older map stands where it stood in the lower tree. -/
theorem standsAt_merge {fuel : Nat} {path : List Scalar} {place : List Identity}
    {lower upper merged : Tree} (made : merge? shelf moment fuel path lower upper = some merged)
    (upperNew : ∀ found ∈ upper.maps, found.1.IsNew moment)
    (stands : merged.StandsAt edit.target place) : lower.StandsAt edit.target place := by
  induction fuel generalizing path place lower upper merged with
  | zero => simp [merge?] at made
  | succ fuel ih =>
    obtain ⟨less, lowOrigin, low, _, high, found, same, isLow, isHigh, foundMade, rfl⟩ |
      ⟨_, rfl⟩ := merge?_cases made
    · obtain rfl : fuel = less := by simpa using same
      have highNew : ∀ found ∈ branchMaps high, found.1.IsNew moment := fun found inside =>
        (mem_maps_of_inside isHigh inside).elim (upperNew found) (shelfNew found)
      refine .of_map? isLow (fun found onShelf => older _ (shelfNew found onShelf)) ?_
      cases place with
      | nil =>
        cases stands with
        | here isTarget =>
          rw [older (.made moment path) rfl] at isTarget
          contradiction
      | cons key rest =>
        exact standsAt_merged older (fun named tree higher merged known => ih known) highNew
          foundMade lowOrigin stands
    · exact absurd stands (Tree.StandsAt.not_of_absent fun found inside => older _ (upperNew found inside))

/-- What stands among merged entries and is not new stood among the lower ones. -/
theorem standsAt_mergeBranches {lower upper merged : Branches}
    (made : mergeBranches? shelf moment lower upper = some merged)
    (upperNew : ∀ found ∈ branchMaps upper, found.1.IsNew moment) {origin : Origin}
    (lowOrigin : Origin) {key : Identity} {rest : List Identity}
    (stands : (Tree.map origin merged).StandsAt edit.target (key :: rest)) :
    (Tree.map lowOrigin lower).StandsAt edit.target (key :: rest) := by
  simp only [mergeBranches?, Option.pure_def, Option.bind_eq_bind, Option.bind_eq_some_iff,
    Option.some.injEq] at made
  obtain ⟨found, foundMade, rfl⟩ := made
  exact standsAt_merged older
    (fun named tree higher merged known => standsAt_merge older shelfNew known) upperNew foundMade
    lowOrigin stands

/-- A write into a map goes through a merge if the upper tree is silent wherever the map stands in the lower
one. -/
theorem merge?_amend (fuel : Nat) {path : List Scalar} {lower upper : Tree}
    (upperNew : ∀ found ∈ upper.maps, found.1.IsNew moment)
    (silent : ∀ rest, lower.StandsAt edit.target (placeOf rest) →
      upper.speaksOf shelf rest = false) :
    merge? shelf moment fuel path (lower.amend edit) upper =
      (merge? shelf moment fuel path lower upper).map (Tree.amend edit) := by
  induction fuel generalizing path lower upper with
  | zero => rfl
  | succ fuel ih =>
    have unchanged : upper.amend edit = upper :=
      amend_of_absent fun found member => older _ (upperNew found member)
    have notShelved : ∀ found ∈ shelf.maps, (found.1 == edit.target) = false :=
      fun found member => older _ (shelfNew found member)
    rw [merge?, merge?, Tree.map?_amend notShelved]
    cases isLow : lower.map? shelf with
    | none => simp [unchanged]
    | some low =>
      cases isHigh : upper.map? shelf with
      | none => simp [unchanged]
      | some high =>
        -- The upper tree speaks about the place of both, so the lower one is not the map written into.
        have other : (low.1 == edit.target) = false := by
          rw [Bool.eq_false_iff]
          intro isTarget
          have speaks := silent [] (.of_map? isLow notShelved (.here isTarget))
          simp [Tree.speaksOf] at speaks
        have highNew : ∀ found ∈ branchMaps high.2, found.1.IsNew moment := fun found inside =>
          (mem_maps_of_inside isHigh inside).elim (upperNew found) (shelfNew found)
        have step : mergeLower (fun key => merge? shelf moment fuel (path ++ [key]))
            (amendBranches edit low.2) high.2 =
              (mergeLower (fun key => merge? shelf moment fuel (path ++ [key])) low.2 high.2).map
                (amendBranches edit) := by
          refine mergeLower_amend fun branch member above here => ih ?_ fun rest inside => ?_
          · exact fun found inHigh => highNew found (mem_branchMaps_of_get? here inHigh)
          · exact Tree.silent_under isHigh here
              (silent (branch.1 :: rest) (.of_map? isLow notShelved (.under member inside)))
        simp only [Option.map_some, Tree.branchesAfter, other, Bool.false_eq_true, if_false, step]
        cases mergeLower (fun key => merge? shelf moment fuel (path ++ [key])) low.2 high.2 with
        | none => rfl
        | some merged =>
          have fresh : (Origin.made moment path == edit.target) = false := older _ rfl
          simp [Tree.amend, fresh, amendBranches_merged older merged highNew]

/-- So does one that merges branches. -/
theorem mergeBranches?_amend {lower upper : Branches}
    (upperNew : ∀ found ∈ branchMaps upper, found.1.IsNew moment) (lowOrigin highOrigin : Origin)
    (silent : ∀ key rest, (Tree.map lowOrigin lower).StandsAt edit.target (placeOf (key :: rest)) →
      (Tree.map highOrigin upper).speaksOf shelf (key :: rest) = false) :
    mergeBranches? shelf moment (amendBranches edit lower) upper =
      (mergeBranches? shelf moment lower upper).map (amendBranches edit) := by
  have step : mergeLower (fun key => merge? shelf moment mergeDepth [key]) (amendBranches edit lower)
      upper = (mergeLower (fun key => merge? shelf moment mergeDepth [key]) lower upper).map
        (amendBranches edit) := by
    refine mergeLower_amend fun branch member above here =>
      merge?_amend older shelfNew mergeDepth ?_ fun rest inside => ?_
    · exact fun found inHigh => upperNew found (mem_branchMaps_of_get? here inHigh)
    · exact Tree.silent_under (Tree.map?_map ..) here (silent branch.1 rest (.under member inside))
  rw [mergeBranches?, mergeBranches?, step]
  cases mergeLower (fun key => merge? shelf moment mergeDepth [key]) lower upper with
  | none => rfl
  | some merged => simp [amendBranches_merged older merged upperNew]

end Amended

end Settings

end Switchboard
