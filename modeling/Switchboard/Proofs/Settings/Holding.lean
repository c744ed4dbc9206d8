import Switchboard.Proofs.Settings.Merging

/-!
# What a graph holds at a path

At the end of a path of keys there is nothing, or a map, or something else. A graph speaks about a
path where it holds something at its end, and also where something other than a map stands in the
way: it is silent only where a map lacks the next key.

Of two trees that are merged the upper one decides about every path that it speaks about, and the
lower one about every other path (`holding_merge`).
-/

namespace Switchboard

/-- What stands at the end of a path. -/
inductive Holding where
  | nothing
  | map
  /-- Something other than a map. -/
  | content (value : Value)

namespace Tree

/-- Whether a tree says something about a path, be it that nothing can stand at its end. -/
def speaksOf (shelf : Shelf) : Tree → List Scalar → Bool
  | _, [] => true
  | tree, key :: rest =>
    match tree.map? shelf with
    | none => true
    | some (_, branches) =>
      match Entries.get? key branches with
      | none => false
      | some below => below.speaksOf shelf rest

/-- What a tree holds at a path. -/
def holding (shelf : Shelf) (tree : Tree) (path : List Scalar) : Holding :=
  match tree.at? shelf path with
  | none => .nothing
  | some found => if found.kind shelf = .map then .map else .content (found.value shelf)

end Tree

namespace Graph

/-- Whether a graph has something to say about a path. -/
def speaksOf (graph : Graph) (path : List Scalar) : Bool := graph.root.speaksOf graph.shelf path

/-- What a graph holds at the end of a path. -/
def holding (graph : Graph) (path : List Scalar) : Holding :=
  match graph.at? path with
  | none => .nothing
  | some found => if found.kind = .map then .map else .content found.value

/-- A graph holds what its tree holds. -/
theorem holding_eq (graph : Graph) (path : List Scalar) :
    graph.holding path = graph.root.holding graph.shelf path := by
  unfold holding Tree.holding at?
  cases graph.root.at? graph.shelf path <;> rfl

end Graph

namespace Tree

variable {shelf : Shelf} {tree : Tree} {origin : Origin} {branches : Branches}

/-- No scalar is a map. -/
theorem scalar_kind_ne_map (content : Scalar) : content.kind ≠ .map := by
  cases content <;> simp [Scalar.kind]

/-- A tree is of the kind of maps where it is a map, be it on the shelf. -/
theorem kind_eq_map_iff (shelf : Shelf) (tree : Tree) :
    tree.kind shelf = .map ↔ (tree.map? shelf).isSome := by
  unfold kind map?
  cases tree.opened shelf with
  | scalar content => simpa using scalar_kind_ne_map content
  | _ => simp

/-- A map holds itself. -/
theorem holding_nil_of_map (isMap : tree.map? shelf = some (origin, branches)) :
    tree.holding shelf [] = .map := by
  have kind : tree.kind shelf = .map := by simp [kind_eq_map_iff, isMap]
  simp [holding, at?, kind]

/-- A map holds what is held below the first key. -/
theorem holding_cons_of_map (isMap : tree.map? shelf = some (origin, branches)) (key : Scalar)
    (rest : List Scalar) :
    tree.holding shelf (key :: rest) =
      match Entries.get? key branches with
      | none => .nothing
      | some below => below.holding shelf rest := by
  cases found : Entries.get? key branches <;> simp [holding, at?, isMap, found]

/-- What is no map holds nothing below it. -/
theorem holding_cons_of_not_map (noMap : tree.map? shelf = none) (key : Scalar)
    (rest : List Scalar) : tree.holding shelf (key :: rest) = .nothing := by
  simp [holding, at?, noMap]

/-- A map speaks of what is spoken of below the first key. -/
theorem speaksOf_cons_of_map (isMap : tree.map? shelf = some (origin, branches)) (key : Scalar)
    (rest : List Scalar) :
    tree.speaksOf shelf (key :: rest) =
      match Entries.get? key branches with
      | none => false
      | some below => below.speaksOf shelf rest := by
  cases found : Entries.get? key branches <;> simp [speaksOf, isMap, found]

/-- Where a tree is silent it holds nothing. -/
theorem holding_of_silent (shelf : Shelf) (tree : Tree) (path : List Scalar)
    (silent : tree.speaksOf shelf path = false) : tree.holding shelf path = .nothing := by
  induction path generalizing tree with
  | nil => simp [speaksOf] at silent
  | cons key rest ih =>
    cases isMap : tree.map? shelf with
    | none => exact holding_cons_of_not_map isMap key rest
    | some found =>
      rw [speaksOf_cons_of_map isMap] at silent
      rw [holding_cons_of_map isMap]
      cases below : Entries.get? key found.2 with
      | none => rfl
      | some inner =>
        simp only [below] at silent
        exact ih inner silent

end Tree

namespace Settings

variable {shelf : Shelf} {moment : Nat}

/-- A step of a merge that is right about a path makes the merge of branches right about the path
below a key. -/
theorem holding_merged {merge : Scalar → Tree → Tree → Option Tree} {lower upper found : Branches}
    (lowOrigin highOrigin origin : Origin) {rest : List Scalar}
    (right : ∀ named tree higher result, merge named tree higher = some result →
      result.holding shelf rest =
        if higher.speaksOf shelf rest then higher.holding shelf rest else tree.holding shelf rest)
    (made : mergeLower merge lower upper = some found) (key : Scalar) :
    (Tree.map origin (found ++ newBranches lower upper)).holding shelf (key :: rest) =
      if (Tree.map highOrigin upper).speaksOf shelf (key :: rest) then
        (Tree.map highOrigin upper).holding shelf (key :: rest)
      else (Tree.map lowOrigin lower).holding shelf (key :: rest) := by
  rw [Tree.holding_cons_of_map (Tree.map?_map ..), Tree.holding_cons_of_map (Tree.map?_map ..),
    Tree.holding_cons_of_map (Tree.map?_map ..), Tree.speaksOf_cons_of_map (Tree.map?_map ..)]
  cases below : Entries.get? key lower with
  | none =>
    rw [get?_merged_of_new made below]
    cases above : Entries.get? key upper with
    | none => rfl
    | some higher => simpa using Tree.holding_of_silent shelf higher rest
  | some tree =>
    cases above : Entries.get? key upper with
    | none => simp [get?_merged_of_kept made below above]
    | some higher =>
      obtain ⟨named, result, resultMade, here⟩ := get?_merged_of_both made below above
      simpa [here] using right named tree higher result resultMade

/-- About a path the upper tree decides where it speaks, and else the lower one. -/
theorem holding_merge {fuel : Nat} {above path : List Scalar} {lower upper merged : Tree}
    (made : merge? shelf moment fuel above lower upper = some merged) :
    merged.holding shelf path =
      if upper.speaksOf shelf path then upper.holding shelf path else lower.holding shelf path := by
  induction path generalizing fuel above lower upper merged with
  | nil =>
    have speaks : upper.speaksOf shelf [] = true := by simp [Tree.speaksOf]
    rw [speaks, if_pos rfl]
    obtain ⟨_, _, _, _, _, _, _, _, isHigh, _, rfl⟩ | ⟨_, rfl⟩ := merge?_cases made
    · rw [Tree.holding_nil_of_map (Tree.map?_map ..), Tree.holding_nil_of_map isHigh]
    · rfl
  | cons key rest ih =>
    obtain ⟨_, lowOrigin, low, highOrigin, high, found, _, isLow, isHigh, foundMade, rfl⟩ |
      ⟨oneIsNoMap, rfl⟩ := merge?_cases made
    · have step := holding_merged lowOrigin highOrigin (.made moment above)
        (fun named tree higher result known => ih known) foundMade key
      rw [step, Tree.speaksOf_cons_of_map isHigh, Tree.holding_cons_of_map isHigh,
        Tree.holding_cons_of_map isLow, Tree.speaksOf_cons_of_map (Tree.map?_map ..),
        Tree.holding_cons_of_map (Tree.map?_map ..), Tree.holding_cons_of_map (Tree.map?_map ..)]
    · cases speaks : merged.speaksOf shelf (key :: rest) with
      | true => rfl
      | false =>
        -- The upper tree is a map, since it is silent; so the lower one is none.
        have noLow : lower.map? shelf = none := by
          rcases oneIsNoMap with noLow | noHigh
          · exact noLow
          · simp [Tree.speaksOf, noHigh] at speaks
        rw [Tree.holding_of_silent shelf merged _ speaks, Tree.holding_cons_of_not_map noLow]
        rfl

/-- About a path below a key the upper branches decide where they speak, and else the lower ones. -/
theorem holding_mergeBranches {lower upper merged : Branches}
    (made : mergeBranches? shelf moment lower upper = some merged)
    (lowOrigin highOrigin origin : Origin) (key : Scalar) (rest : List Scalar) :
    (Tree.map origin merged).holding shelf (key :: rest) =
      if (Tree.map highOrigin upper).speaksOf shelf (key :: rest) then
        (Tree.map highOrigin upper).holding shelf (key :: rest)
      else (Tree.map lowOrigin lower).holding shelf (key :: rest) := by
  simp only [mergeBranches?, Option.pure_def, Option.bind_eq_bind, Option.bind_eq_some_iff,
    Option.some.injEq] at made
  obtain ⟨found, foundMade, rfl⟩ := made
  exact holding_merged lowOrigin highOrigin origin
    (fun named tree higher result known => holding_merge known) foundMade key

end Settings

end Switchboard
