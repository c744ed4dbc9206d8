import Switchboard.Settings.Merge
import Switchboard.Settings.Path

/-!
# Layers whose maps are shared

Merging two layers makes a new map wherever both hold a map, and leaves every other map what it was. A write
changes one map, and so shows wherever that map stands: among the settings in force, among the built-in ones,
on a shelf, and with whoever was given it.

Merging trees is merging what they hold (`valueWith_mergeBranches`), for every reading of the shelf by which an
origin stands for what is under it. Where maps that stand inside themselves are merged without end, there is
no result.
-/

namespace Switchboard

namespace Settings

/-- How deeply maps are merged. So deep does the limit of recursion let a program go that loads from its top. -/
def mergeDepth : Nat := 990

/-- A lower tree merged with what the upper branches hold under its key. -/
def mergeUnder (merge : Scalar → Tree → Tree → Option Tree) (key : Scalar) (tree : Tree)
    (upper : Branches) : Option Tree :=
  match Entries.get? key upper with
  | none => some tree
  | some above => merge key tree above

/-- The lower branches, each merged with what the upper ones hold under its key. -/
def mergeLower (merge : Scalar → Tree → Tree → Option Tree) : Branches → Branches → Option Branches
  | [], _ => some []
  | (key, tree) :: rest, upper => do
    let merged ← mergeUnder merge key tree upper
    let others ← mergeLower merge rest upper
    return (key, merged) :: others

/-- The upper branches that the lower ones do not have. -/
def newBranches (lower upper : Branches) : Branches :=
  upper.filter fun branch => !Entries.has branch.1 lower

/-- The upper tree over the lower one, at a moment and under a path: of two maps a new one is made, anything
else is replaced. Maps in one another take from the fuel. -/
def merge? (shelf : Shelf) (moment : Nat) : (fuel : Nat) → (path : List Scalar) → Tree → Tree →
    Option Tree
  | 0, _, _, _ => none
  | fuel + 1, path, lower, upper =>
    match lower.map? shelf, upper.map? shelf with
    | some (_, below), some (_, above) => do
      let merged ←
        mergeLower (fun key => merge? shelf moment fuel (path ++ [key])) below above
      return .map (.made moment path) (merged ++ newBranches below above)
    | _, _ => some upper

/-- The upper branches over the lower ones. -/
def mergeBranches? (shelf : Shelf) (moment : Nat) (lower upper : Branches) : Option Branches := do
  let merged ← mergeLower (fun key => merge? shelf moment mergeDepth [key]) lower upper
  return merged ++ newBranches lower upper

/-- A reading of a shelf takes each origin for what is under it, and that is no mere name of something else. -/
structure Reads (shelf : Shelf) (shelved : Origin → Value) : Prop where
  taken : ∀ origin, (shelf.take origin).valueWith shelved = shelved origin
  apart : ∀ origin other, shelf.take origin ≠ .shelved other

/-- What is under a key of a map has its value there. -/
theorem get?_branchesWith (shelved : Origin → Value) (key : Scalar) (branches : Branches) :
    Entries.get? key (branchesWith shelved branches) =
      (Entries.get? key branches).map (Tree.valueWith shelved) := by
  induction branches with
  | nil => simp [branchesWith]
  | cons branch rest ih =>
    cases same : branch.1 == key <;> simp [branchesWith, Entries.get?, same, ih]

/-- The keys are those of the values. -/
theorem has_branchesWith (shelved : Origin → Value) (key : Scalar) (branches : Branches) :
    Entries.has key (branchesWith shelved branches) = Entries.has key branches := by
  simp [Entries.has, get?_branchesWith]

/-- The values of entries one after the other. -/
theorem branchesWith_append (shelved : Origin → Value) (front back : Branches) :
    branchesWith shelved (front ++ back) = branchesWith shelved front ++ branchesWith shelved back := by
  induction front with
  | nil => rfl
  | cons branch rest ih => simp [branchesWith, ih]

/-- Branches chosen by their keys hold the entries chosen by their keys. -/
theorem branchesWith_filter (shelved : Origin → Value) (chosen : Scalar → Bool)
    (branches : Branches) :
    branchesWith shelved (branches.filter fun branch => chosen branch.1) =
      (branchesWith shelved branches).filter fun entry => chosen entry.1 := by
  induction branches with
  | nil => rfl
  | cons branch rest ih => cases kept : chosen branch.1 <;> simp [branchesWith, kept, ih]

/-- The new entries of the upper map are new among the values too. -/
theorem branchesWith_newBranches (shelved : Origin → Value) (lower upper : Branches) :
    branchesWith shelved (newBranches lower upper) =
      (branchesWith shelved upper).filter fun entry =>
        !Entries.has entry.1 (branchesWith shelved lower) := by
  simp only [newBranches, branchesWith_filter shelved (fun key => !Entries.has key lower),
    has_branchesWith]

/-- What lies on the shelf has the value that it is read with. -/
theorem valueWith_opened {shelf : Shelf} {shelved : Origin → Value} (reads : Reads shelf shelved)
    (tree : Tree) : (tree.opened shelf).valueWith shelved = tree.valueWith shelved := by
  cases tree with
  | shelved origin => simpa [Tree.opened, Tree.valueWith] using reads.taken origin
  | _ => rfl

/-- Nothing that was taken from the shelf is on the shelf again. -/
theorem opened_ne_shelved {shelf : Shelf} {shelved : Origin → Value} (reads : Reads shelf shelved)
    (tree : Tree) (origin : Origin) : tree.opened shelf ≠ .shelved origin := by
  cases tree with
  | shelved named => exact reads.apart named origin
  | _ => simp [Tree.opened]

/-- A step of a merge that is right makes the whole merge of branches right. -/
theorem branchesWith_mergeLower (shelved : Origin → Value)
    (merge : Scalar → Tree → Tree → Option Tree)
    (right : ∀ key lower upper merged, merge key lower upper = some merged →
      merged.valueWith shelved =
        Settings.merge (lower.valueWith shelved) (upper.valueWith shelved))
    (lower upper merged : Branches) (made : mergeLower merge lower upper = some merged) :
    branchesWith shelved merged =
      Settings.mergeEntries (branchesWith shelved lower) (branchesWith shelved upper) := by
  induction lower generalizing merged with
  | nil =>
    simp only [mergeLower, Option.some.injEq] at made
    subst made
    simp [branchesWith, Settings.mergeEntries]
  | cons branch rest ih =>
    obtain ⟨key, tree⟩ := branch
    simp only [mergeLower, Option.pure_def, Option.bind_eq_bind, Option.bind_eq_some_iff,
      Option.some.injEq] at made
    obtain ⟨first, firstMade, others, othersMade, rfl⟩ := made
    simp only [branchesWith, Settings.mergeEntries, get?_branchesWith, ih others othersMade]
    unfold mergeUnder at firstMade
    cases found : Entries.get? key upper with
    | none =>
      simp only [found, Option.some.injEq] at firstMade
      simp [firstMade]
    | some above =>
      simp only [found] at firstMade
      simp [right key tree above first firstMade]

/-- What is merged holds the one value over the other. -/
theorem valueWith_merge {shelf : Shelf} {shelved : Origin → Value} (reads : Reads shelf shelved)
    (moment fuel : Nat) (path : List Scalar) (lower upper merged : Tree)
    (made : merge? shelf moment fuel path lower upper = some merged) :
    merged.valueWith shelved =
      Settings.merge (lower.valueWith shelved) (upper.valueWith shelved) := by
  induction fuel generalizing path lower upper merged with
  | zero => simp [merge?] at made
  | succ fuel ih =>
    rw [← valueWith_opened reads lower, ← valueWith_opened reads upper]
    have step := branchesWith_mergeLower shelved
      (fun key => merge? shelf moment fuel (path ++ [key]))
      (fun key below above result found => ih (path ++ [key]) below above result found)
    unfold merge? Tree.map? at made
    cases below : lower.opened shelf with
    | map _ front =>
      cases above : upper.opened shelf with
      | map _ back =>
        simp only [below, above, Option.pure_def, Option.bind_eq_bind, Option.bind_eq_some_iff,
          Option.some.injEq] at made
        obtain ⟨found, foundMade, rfl⟩ := made
        simp only [Tree.valueWith, Settings.merge, branchesWith_append, branchesWith_newBranches,
          step front back found foundMade]
      | shelved origin => exact absurd above (opened_ne_shelved reads upper origin)
      | _ =>
        simp only [below, above, Option.some.injEq] at made
        subst made
        rw [← valueWith_opened reads upper, above]
        simp [Tree.valueWith, Settings.merge]
    | shelved origin => exact absurd below (opened_ne_shelved reads lower origin)
    | _ =>
      simp only [below, Option.some.injEq] at made
      subst made
      rw [← valueWith_opened reads upper]
      simp [Tree.valueWith, Settings.merge]

/-- Merging branches is merging the sections that they hold. -/
theorem valueWith_mergeBranches {shelf : Shelf} {shelved : Origin → Value}
    (reads : Reads shelf shelved) (moment : Nat) (origin : Origin) (lower upper merged : Branches)
    (made : mergeBranches? shelf moment lower upper = some merged) :
    (Tree.map origin merged).valueWith shelved =
      Settings.merge (.map (branchesWith shelved lower)) (.map (branchesWith shelved upper)) := by
  simp only [mergeBranches?, Option.pure_def, Option.bind_eq_bind, Option.bind_eq_some_iff,
    Option.some.injEq] at made
  obtain ⟨found, foundMade, rfl⟩ := made
  have step := branchesWith_mergeLower shelved (fun key => merge? shelf moment mergeDepth [key])
    (fun key below above result known =>
      valueWith_merge reads moment mergeDepth [key] below above result known) lower upper found foundMade
  simp only [Tree.valueWith, Settings.merge, branchesWith_append, branchesWith_newBranches, step]

/-- A write into a map: the map, by its origin, and what it holds afterwards. -/
structure Edit where
  target : Origin
  branches : Branches

end Settings

mutual

/-- The tree after a write into one of its maps, wherever that map stands. -/
def Tree.amend (edit : Settings.Edit) : Tree → Tree
  | .map origin branches =>
    .map origin (if origin == edit.target then edit.branches else amendBranches edit branches)
  | .list items => .list (amendItems edit items)
  | .pair first second => .pair (first.amend edit) (second.amend edit)
  | other => other

/-- Makes an edit wherever its map stands in items. -/
def amendItems (edit : Settings.Edit) : List Tree → List Tree
  | [] => []
  | item :: rest => item.amend edit :: amendItems edit rest

/-- Makes an edit wherever its map stands in entries. -/
def amendBranches (edit : Settings.Edit) : Branches → Branches
  | [] => []
  | (key, tree) :: rest => (key, tree.amend edit) :: amendBranches edit rest

end

/-- Makes an edit wherever its map stands on the shelf. -/
def Shelf.amend (edit : Settings.Edit) (shelf : Shelf) : Shelf :=
  shelf.map fun entry => (entry.1, entry.2.amend edit)

/-- The graph after a write into one of its maps. -/
def Graph.amend (edit : Settings.Edit) (graph : Graph) : Graph :=
  { root := graph.root.amend edit, shelf := graph.shelf.amend edit }

namespace Settings

/-- What a write does in the innermost map that its path leads to, given the path to this map, the next key,
the rest of the path and the branches of the map. -/
abbrev Planting := List Scalar → Scalar → List Scalar → Branches → Branches

/-- The value that puts an item at the end of a path of maps. -/
def nested (path : List Scalar) (item : Value) : Value :=
  path.foldr (fun key inner => .map [(key, inner)]) item

/-- The branches of a map after a write that changes this map: a new tree holds the rest of the path and takes
the place of what stood in its way. `above` leads to the map. -/
def plant (moment : Nat) (item : Value) : Planting := fun above key rest branches =>
  Entries.put key (Tree.grow (.made moment) (above ++ [key]) (nested rest item)) branches

/-- The tree that puts another one, as it is, at the end of a path of new maps. `above` leads to it. -/
def wrap (moment : Nat) (tree : Tree) : (above path : List Scalar) → Tree
  | _, [] => tree
  | above, key :: rest => .map (.made moment above) [(key, wrap moment tree (above ++ [key]) rest)]

/-- The branches of a map after a write of a tree that stands elsewhere as well. -/
def hang (moment : Nat) (tree : Tree) : Planting := fun above key rest branches =>
  Entries.put key (wrap moment tree (above ++ [key]) rest) branches

/-- The map under a key. -/
def mapUnder? (shelf : Shelf) (key : Scalar) (branches : Branches) : Option (Origin × Branches) :=
  (Entries.get? key branches).bind (Tree.map? shelf)

/-- The write at a path below a map, which changes the innermost map that the path leads to. -/
def editBelow (shelf : Shelf) (put : Planting) (origin : Origin) (above : List Scalar) :
    (path : List Scalar) → Branches → Edit
  | [], branches => ⟨origin, branches⟩
  | key :: rest, branches =>
    match rest, mapUnder? shelf key branches with
    | _ :: _, some (inner, below) => editBelow shelf put inner (above ++ [key]) rest below
    | _, _ => ⟨origin, put above key rest branches⟩

/-- What a write changes: the settings at their top, which nobody shares, or a map below. -/
inductive Change where
  | top (branches : Branches)
  | inner (edit : Edit)

/-- The write at a path. The empty path leads nowhere and changes nothing. -/
def writeAt (shelf : Shelf) (put : Planting) (path : List Scalar) (branches : Branches) : Change :=
  match path with
  | [] => .top branches
  | key :: rest =>
    match rest, mapUnder? shelf key branches with
    | _ :: _, some (inner, below) => .inner (editBelow shelf put inner [key] rest below)
    | _, _ => .top (put [] key rest branches)

end Settings

end Switchboard
