import Switchboard.Proofs.Settings.Placing

/-!
# Reading after a write

A write into a map shows wherever that map stands, and nowhere else. A path that meets the map at its end
at most leads where it led before (`Tree.at?_amend`), and what does not hold the map, be it by way of the
shelf, has the value that it had (`Tree.value_amend_of_not_holds`). Two writes into a map that put the same
into it, as far as values go, leave the same value (`Tree.value_amend_congr`).
-/

namespace Switchboard

namespace Origin

/-- To be the same origin is an equivalence. -/
instance : EquivBEq Origin where
  rfl {origin} := by
    cases origin with
    | alone => rfl
    | made moment path => exact made_beq_iff.mpr ⟨rfl, rfl⟩
    | read moment source number => exact read_beq_self moment source number
  symm {origin other} same := by
    cases other with
    | alone => cases origin <;> first | rfl | contradiction
    | made moment path =>
      cases origin with
      | made known place =>
        obtain ⟨sameMoment, samePlace⟩ := made_beq_iff.mp same
        exact made_beq_iff.mpr ⟨sameMoment.symm, samePlace.symm⟩
      | _ => contradiction
    | read moment source number =>
      obtain rfl := eq_of_beq_read same
      exact read_beq_self moment source number
  trans {origin other third} same also := by
    cases third with
    | alone => cases other <;> cases origin <;> first | rfl | contradiction
    | made moment path =>
      cases other with
      | made known place =>
        cases origin with
        | made older first =>
          obtain ⟨sameMoment, samePlace⟩ := made_beq_iff.mp same
          obtain ⟨alsoMoment, alsoPlace⟩ := made_beq_iff.mp also
          exact made_beq_iff.mpr ⟨sameMoment.trans alsoMoment, samePlace.trans alsoPlace⟩
        | _ => contradiction
      | _ => contradiction
    | read moment source number =>
      obtain rfl := eq_of_beq_read also
      exact same

end Origin

section Following

variable {edit : Settings.Edit} {shelf : Shelf} {tree : Tree}

namespace Shelf

/-- An edit adds nothing to a shelf. -/
@[simp] theorem length_amend : (shelf.amend edit).length = shelf.length := List.length_map _

/-- What is taken from an edited shelf is what was there, edited. -/
theorem take_amend (edit : Settings.Edit) (shelf : Shelf) (origin : Origin) :
    (shelf.amend edit).take origin = (shelf.take origin).amend edit := by
  have found : Entries.get? origin (shelf.amend edit) =
      (Entries.get? origin shelf).map (Tree.amend edit) :=
    Entries.get?_map_items (Tree.amend edit) origin shelf
  rw [take, take, found]
  cases Entries.get? origin shelf <;> rfl

end Shelf

/-- Under a key of edited entries is what was there, edited. -/
theorem get?_amendBranches (key : Scalar) (branches : Branches) :
    Entries.get? key (amendBranches edit branches) =
      (Entries.get? key branches).map (Tree.amend edit) := by
  rw [amendBranches_eq_map]
  exact Entries.get?_map_items (Tree.amend edit) key branches

namespace Tree

/-- An edit changes no kind. -/
theorem kind_amend (edit : Settings.Edit) (shelf : Shelf) (tree : Tree) :
    (tree.amend edit).kind (shelf.amend edit) = tree.kind shelf := by
  cases tree with
  | shelved origin =>
    simp only [amend, kind, opened, Shelf.take_amend]
    cases shelf.take origin <;> rfl
  | _ => rfl

/-- The branches of a map after a write. -/
def branchesAfter (edit : Settings.Edit) (found : Origin × Branches) : Branches :=
  if found.1 == edit.target then edit.branches else amendBranches edit found.2

/-- An edited tree is the map that it was, edited. -/
theorem map?_amended (edit : Settings.Edit) (shelf : Shelf) (tree : Tree) :
    (tree.amend edit).map? (shelf.amend edit) =
      (tree.map? shelf).map fun found => (found.1, branchesAfter edit found) := by
  cases tree with
  | shelved origin =>
    simp only [amend, map?, opened, Shelf.take_amend]
    cases shelf.take origin <;> rfl
  | _ => rfl

/-- A path goes on from the map that its front leads to. -/
theorem at?_append_cons {front : List Scalar} {found : Origin × Branches}
    (here : tree.mapAt? shelf front = some found) (key : Scalar) (rest : List Scalar) :
    tree.at? shelf (front ++ key :: rest) =
      (Entries.get? key found.2).bind fun below => below.at? shelf rest := by
  induction front generalizing tree with
  | nil =>
    have isMap : tree.map? shelf = some found := by simpa using here
    rw [List.nil_append, at?_cons, isMap, Option.bind_some]
  | cons first front ih =>
    simp only [mapAt?_cons, Option.bind_eq_some_iff] at here
    obtain ⟨owner, isMap, below, under, here⟩ := here
    rw [List.cons_append, at?_cons, isMap, Option.bind_some, under, Option.bind_some, ih here]

/-- The maps before the end of a path are not the one that is written into. -/
def Avoids (shelf : Shelf) (tree : Tree) (target : Origin) (path : List Scalar) : Prop :=
  ∀ front found, front <+: path → front ≠ path → tree.mapAt? shelf front = some found →
    (found.1 == target) = false

/-- What a path avoids, it avoids below its first key. -/
theorem Avoids.below {target : Origin} {key : Scalar} {rest : List Scalar}
    (avoids : tree.Avoids shelf target (key :: rest)) {owner : Origin × Branches}
    (isMap : tree.map? shelf = some owner) {below : Tree}
    (under : Entries.get? key owner.2 = some below) : below.Avoids shelf target rest := by
  intro front found isFront short here
  refine avoids (key :: front) found ?_ (by simpa using short) ?_
  · exact List.cons_prefix_cons.mpr ⟨rfl, isFront⟩
  · rw [mapAt?_cons, isMap, Option.bind_some, under, Option.bind_some, here]

/-- What a path avoids, its beginning avoids. -/
theorem Avoids.of_prefix {target : Origin} {front path : List Scalar}
    (avoids : tree.Avoids shelf target path) (isFront : front <+: path) :
    tree.Avoids shelf target front := by
  intro shorter found isShorter short here
  refine avoids shorter found (isShorter.trans isFront) ?_ here
  rintro rfl
  exact short (isShorter.eq_of_length_le isFront.length_le)

/-- A path that meets the map that is written into at its end at most leads where it led. -/
theorem at?_amend {path : List Scalar} (avoids : tree.Avoids shelf edit.target path) :
    (tree.amend edit).at? (shelf.amend edit) path =
      (tree.at? shelf path).map (Tree.amend edit) := by
  induction path generalizing tree with
  | nil => simp [at?]
  | cons key rest ih =>
    rw [at?_cons, at?_cons, map?_amended]
    cases isMap : tree.map? shelf with
    | none => rfl
    | some owner =>
      have apart : (owner.1 == edit.target) = false :=
        avoids [] owner (by simp) (by simp) (by simpa using isMap)
      simp only [Option.map_some, Option.bind_some, branchesAfter, apart, Bool.false_eq_true,
        if_false, get?_amendBranches]
      cases under : Entries.get? key owner.2 with
      | none => rfl
      | some below => simpa using ih (avoids.below isMap under)

/-- A path that avoids an edit leads to the map that it led to, edited. -/
theorem mapAt?_amend {path : List Scalar} (avoids : tree.Avoids shelf edit.target path) :
    (tree.amend edit).mapAt? (shelf.amend edit) path =
      (tree.mapAt? shelf path).map fun found => (found.1, branchesAfter edit found) := by
  rw [mapAt?, mapAt?, at?_amend avoids]
  cases tree.at? shelf path with
  | none => rfl
  | some found => exact map?_amended edit shelf found

end Tree

end Following

/-- Whether a map stands somewhere in a tree, be it by way of the shelf. -/
inductive Tree.Holds (shelf : Shelf) (target : Origin) : Tree → Prop
  | own {tree : Tree} {found : Origin × Branches} (member : found ∈ tree.maps)
      (same : (found.1 == target) = true) : Holds shelf target tree
  | named {tree : Tree} {origin : Origin} (isNamed : origin ∈ tree.names)
      (inside : Holds shelf target (shelf.take origin)) : Holds shelf target tree

section Elsewhere

variable {edit : Settings.Edit} {shelf : Shelf} {tree : Tree}

namespace Tree

/-- A map holds what its entries hold. -/
theorem Holds.of_branch {target owner : Origin} {branches : Branches} {branch : Scalar × Tree}
    (member : branch ∈ branches) (holds : branch.2.Holds shelf target) :
    (Tree.map owner branches).Holds shelf target := by
  cases holds with
  | own among same =>
    exact .own (List.mem_cons_of_mem _ (mem_branchMaps.mpr ⟨branch, member, among⟩)) same
  | named isNamed inside => exact .named (mem_branchNames.mpr ⟨branch, member, isNamed⟩) inside

/-- What stands under a key of a tree holds nothing that the tree does not hold. -/
theorem Holds.of_get? {target : Origin} {found : Origin × Branches}
    (isMap : tree.map? shelf = some found) {key : Scalar} {below : Tree}
    (under : Entries.get? key found.2 = some below) (holds : below.Holds shelf target) :
    tree.Holds shelf target := by
  obtain ⟨other, member, _⟩ := Entries.exists_mem_of_get? under
  have inMap : (Tree.map found.1 found.2).Holds shelf target := .of_branch member holds
  unfold map? at isMap
  split at isMap
  next owner branches opened =>
    obtain rfl : (owner, branches) = found := by simpa using isMap
    cases tree with
    | shelved origin =>
      refine .named (List.mem_singleton.mpr rfl) ?_
      rw [show shelf.take origin = .map owner branches from opened]
      exact inMap
    | map _ _ => exact (show Tree.map _ _ = .map owner branches from opened) ▸ inMap
    | _ => simp [Tree.opened] at opened
  next => contradiction

/-- A tree that does not hold the map of an edit is not changed by it. -/
theorem amend_of_not_holds (outside : ¬tree.Holds shelf edit.target) : tree.amend edit = tree :=
  amend_of_absent fun _ member => Bool.eq_false_iff.mpr fun same => outside (.own member same)

end Tree

/-- What does not hold the map of an edit is read as before it. -/
theorem Shelf.value_amend_of_not_holds {fuel : Nat} {around : List Origin} {origin : Origin}
    (outside : ¬(shelf.take origin).Holds shelf edit.target) :
    (shelf.amend edit).value fuel around origin = shelf.value fuel around origin := by
  induction fuel generalizing around origin with
  | zero => simp only [value, take_amend, Tree.kind_amend]
  | succ fuel ih =>
    simp only [value, take_amend, Tree.kind_amend]
    split
    · rfl
    · rw [Tree.amend_of_not_holds outside]
      exact valueWith_congr _ fun named isNamed => ih fun inside => outside (.named isNamed inside)

namespace Tree

/-- What does not hold the map that is written into keeps its value. -/
theorem value_amend_of_not_holds (outside : ¬tree.Holds shelf edit.target) :
    tree.value (shelf.amend edit) = tree.value shelf := by
  rw [value, value, Shelf.length_amend]
  exact valueWith_congr tree fun named isNamed =>
    Shelf.value_amend_of_not_holds fun inside => outside (.named isNamed inside)

/-- Neither does a path in it lead to another value. -/
theorem at?_amend_of_not_holds (outside : ¬tree.Holds shelf edit.target) (path : List Scalar) :
    (tree.at? (shelf.amend edit) path).map (Tree.value (shelf.amend edit)) =
      (tree.at? shelf path).map (Tree.value shelf) := by
  induction path generalizing tree with
  | nil => simp [at?, value_amend_of_not_holds outside]
  | cons key rest ih =>
    have sameMap : tree.map? (shelf.amend edit) = tree.map? shelf := by
      cases tree with
      | shelved origin =>
        have named : ¬(shelf.take origin).Holds shelf edit.target :=
          fun inside => outside (.named (List.mem_singleton.mpr rfl) inside)
        simp only [map?, opened, Shelf.take_amend, amend_of_not_holds named]
      | _ => rfl
    rw [at?_cons, at?_cons, sameMap]
    cases isMap : tree.map? shelf with
    | none => rfl
    | some found =>
      simp only [Option.bind_some]
      cases under : Entries.get? key found.2 with
      | none => rfl
      | some below => exact ih fun inside => outside (inside.of_get? isMap under)

end Tree

end Elsewhere

section Twice

/-- Whether branches hold the same, whatever the shelf holds. -/
def Alike (branches other : Branches) : Prop :=
  ∀ shelved, branchesWith shelved branches = branchesWith shelved other

variable {edit : Settings.Edit} {shelf : Shelf} {tree : Tree} {target : Origin}
  {branches other : Branches}

namespace Tree

/-- Writes of what holds the same leave what holds the same. -/
theorem valueWith_amend_congr (alike : Alike branches other) (shelved : Origin → Value)
    (tree : Tree) : (tree.amend ⟨target, branches⟩).valueWith shelved =
      (tree.amend ⟨target, other⟩).valueWith shelved := by
  induction tree using Tree.induct with
  | scalar _ => rfl
  | set _ => rfl
  | shelved _ => rfl
  | list items ih =>
    simp only [amend, valueWith, amendItems_eq_map, itemsWith_eq_map, List.map_map]
    congr 1
    exact List.map_congr_left ih
  | pair first second firstSame secondSame =>
    simp only [amend, valueWith, firstSame, secondSame]
  | map origin inner ih =>
    cases isTarget : origin == target with
    | true => simp [amend, valueWith, isTarget, alike shelved]
    | false =>
      simp only [amend, valueWith, isTarget, Bool.false_eq_true, if_false, amendBranches_eq_map,
        branchesWith_eq_map, List.map_map]
      congr 1
      refine List.map_congr_left fun branch member => ?_
      simp [ih branch member]

/-- Two writes in a row are one, if they agree on every map of a tree on what the one leaves there. -/
theorem amend_amend (later : Settings.Edit) (tree : Tree) (known : ∀ found ∈ tree.maps,
      if found.1 == edit.target then
        branchesAfter later (found.1, edit.branches) = branches
      else (found.1 == later.target) = false) :
    (tree.amend edit).amend later = tree.amend ⟨edit.target, branches⟩ := by
  induction tree using Tree.induct with
  | scalar _ => rfl
  | set _ => rfl
  | shelved _ => rfl
  | list items ih =>
    simp only [amend, amendItems_eq_map, List.map_map]
    congr 1
    exact List.map_congr_left fun item member =>
      ih item member fun found inside => known found (mem_itemMaps.mpr ⟨item, member, inside⟩)
  | pair first second firstSame secondSame =>
    simp only [maps, List.forall_mem_append] at known
    simp only [amend, firstSame known.1, secondSame known.2]
  | map origin inner ih =>
    simp only [maps, List.forall_mem_cons] at known
    obtain ⟨here, below⟩ := known
    cases isTarget : origin == edit.target with
    | true =>
      simp only [isTarget, if_true] at here
      simp only [amend, isTarget, if_true]
      rw [← here, branchesAfter]
    | false =>
      simp only [isTarget, Bool.false_eq_true, if_false] at here
      simp only [amend, isTarget, here, Bool.false_eq_true, if_false, amendBranches_eq_map,
        List.map_map]
      congr 1
      refine List.map_congr_left fun branch member => ?_
      have same := ih branch member fun found inside =>
        below found (mem_branchMaps.mpr ⟨branch, member, inside⟩)
      simp [same]

end Tree

/-- An edit by other entries that read alike is read alike. -/
theorem Shelf.value_amend_congr (alike : Alike branches other) (fuel : Nat) (around : List Origin)
    (origin : Origin) : (shelf.amend ⟨target, branches⟩).value fuel around origin =
      (shelf.amend ⟨target, other⟩).value fuel around origin := by
  induction fuel generalizing around origin with
  | zero => simp only [value, take_amend, Tree.kind_amend]
  | succ fuel ih =>
    have inside : (shelf.amend ⟨target, branches⟩).value fuel (origin :: around) =
        (shelf.amend ⟨target, other⟩).value fuel (origin :: around) :=
      funext fun named => ih (origin :: around) named
    simp only [value, take_amend, Tree.kind_amend, inside, Tree.valueWith_amend_congr alike]

/-- A tree is read alike after edits by entries that read alike. -/
theorem Tree.value_amend_congr (alike : Alike branches other) :
    (tree.amend ⟨target, branches⟩).value (shelf.amend ⟨target, branches⟩) =
      (tree.amend ⟨target, other⟩).value (shelf.amend ⟨target, other⟩) := by
  have inside : (shelf.amend ⟨target, branches⟩).value (shelf.length + 1) [] =
      (shelf.amend ⟨target, other⟩).value (shelf.length + 1) [] :=
    funext fun named => Shelf.value_amend_congr alike _ _ named
  rw [value, value, Shelf.length_amend, Shelf.length_amend, inside, valueWith_amend_congr alike]

namespace Shelf

/-- An edit after another is one edit, if it only changes what the first one wrote. -/
theorem amend_amend (later : Settings.Edit) (shelf : Shelf) (known : ∀ found ∈ shelf.maps,
      if found.1 == edit.target then
        Tree.branchesAfter later (found.1, edit.branches) = branches
      else (found.1 == later.target) = false) :
    (shelf.amend edit).amend later = shelf.amend ⟨edit.target, branches⟩ := by
  simp only [amend, List.map_map]
  refine List.map_congr_left fun entry member => ?_
  have same : (entry.2.amend edit).amend later = entry.2.amend ⟨edit.target, branches⟩ :=
    Tree.amend_amend later entry.2 fun found inside =>
      known found (mem_maps.mpr ⟨entry, member, inside⟩)
  simp [same]

end Shelf

end Twice

end Switchboard
