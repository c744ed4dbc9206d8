import Switchboard.Proofs.Settings.Writing
import Switchboard.Settings.Store

/-!
# How far a path leads

A write follows its path through nested maps, up to the last key at most, and changes the innermost
map that it meets (`writeAt_follows`). How far that is says `Graph.LeadsTo`: it is the longest part of
the path that leads through maps only.
-/

namespace Switchboard

namespace Tree

variable {shelf : Shelf} {tree : Tree}

/-- The map at the end of a path. -/
def mapAt? (shelf : Shelf) (tree : Tree) (path : List Scalar) : Option (Origin × Branches) :=
  (tree.at? shelf path).bind (Tree.map? shelf)

/-- No key leads to the tree itself, if it is a map. -/
@[simp] theorem mapAt?_nil : tree.mapAt? shelf [] = tree.map? shelf := by
  simp [mapAt?, at?]

/-- A path leads on from what is under its first key. -/
theorem at?_cons (key : Scalar) (rest : List Scalar) :
    tree.at? shelf (key :: rest) = (tree.map? shelf).bind fun found =>
      (Entries.get? key found.2).bind fun below => below.at? shelf rest := by
  rw [at?]
  cases tree.map? shelf with
  | none => rfl
  | some found => cases here : Entries.get? key found.2 <;> simp [here]

/-- A path leads to a map by way of what is under its first key. -/
theorem mapAt?_cons (key : Scalar) (rest : List Scalar) :
    tree.mapAt? shelf (key :: rest) = (tree.map? shelf).bind fun found =>
      (Entries.get? key found.2).bind fun below => below.mapAt? shelf rest := by
  rw [mapAt?, at?_cons]
  cases tree.map? shelf with
  | none => rfl
  | some found =>
    simp only [Option.bind_some]
    cases Entries.get? key found.2 with
    | none => rfl
    | some below => rfl

/-- A path after another leads on from the map that this one leads to. -/
theorem mapAt?_append (front back : List Scalar) :
    tree.mapAt? shelf (front ++ back) = (tree.mapAt? shelf front).bind fun found =>
      (Tree.map found.1 found.2).mapAt? shelf back := by
  induction front generalizing tree with
  | nil =>
    cases back with
    | nil => cases isMap : tree.map? shelf <;> simp [isMap]
    | cons key rest => cases isMap : tree.map? shelf <;> simp [isMap, mapAt?_cons]
  | cons key rest ih =>
    rw [List.cons_append, mapAt?_cons, mapAt?_cons]
    cases tree.map? shelf with
    | none => rfl
    | some found =>
      cases here : Entries.get? key found.2 with
      | none => simp [here]
      | some below => simpa [here] using ih

/-- On the way to a map there are maps only. -/
theorem mapAt?_of_prefix {front path : List Scalar} {found : Origin × Branches}
    (isFront : front <+: path) (here : tree.mapAt? shelf path = some found) :
    (tree.mapAt? shelf front).isSome := by
  obtain ⟨back, rfl⟩ := isFront
  rw [mapAt?_append] at here
  cases inner : tree.mapAt? shelf front with
  | none => simp [inner] at here
  | some _ => rfl

/-- A tree holds a map at a path exactly where the path leads to one. -/
theorem holding_eq_map_iff (path : List Scalar) :
    tree.holding shelf path = .map ↔ (tree.mapAt? shelf path).isSome := by
  unfold holding mapAt?
  cases tree.at? shelf path with
  | none => simp
  | some found =>
    rw [Option.bind_some, ← kind_eq_map_iff]
    by_cases isMap : found.kind shelf = .map <;> simp [isMap]

end Tree

/-- A graph holds a map at a path exactly where the path leads to one. -/
theorem Graph.holding_eq_map_iff (graph : Graph) (path : List Scalar) :
    graph.holding path = .map ↔ (graph.root.mapAt? graph.shelf path).isSome := by
  rw [graph.holding_eq, Tree.holding_eq_map_iff]

/-- A relabelled path leads to the map that the path led to, relabelled. -/
theorem Tree.mapAt?_relabel {labels : Relabelling} (faithful : labels.IsFaithful) (shelf : Shelf)
    (tree : Tree) (path : List Scalar) :
    (tree.relabel labels).mapAt? (shelf.relabel labels) (path.map (Scalar.relabel labels)) =
      (tree.mapAt? shelf path).map
        fun found => (found.1.relabel labels, relabelBranches labels found.2) := by
  rw [mapAt?, mapAt?, at?_relabel faithful]
  cases tree.at? shelf path with
  | none => rfl
  | some below => exact below.map?_relabel faithful shelf

/-- Where two shelves have the same, a path leads to the same map. -/
theorem Shelf.Agree.mapAt?_eq {moment : Nat} {sources : List Nat} {shelf other : Shelf} {tree : Tree}
    (agree : Shelf.Agree moment sources shelf other) (path : List Scalar)
    (known : ∀ named ∈ tree.names, named.IsOf moment sources) :
    tree.mapAt? shelf path = tree.mapAt? other path := by
  obtain ⟨same, inside⟩ := agree.at?_eq path known
  unfold Tree.mapAt?
  rw [← same]
  cases here : tree.at? shelf path with
  | none => rfl
  | some found => exact agree.map?_eq (inside found here)

/-- How far a path leads before its last key: as far as there are maps only. -/
structure Graph.LeadsTo (graph : Graph) (path reached : List Scalar) : Prop where
  within : reached <+: path.dropLast
  maps : ∀ front, front ≠ [] → front <+: reached → graph.holding front = .map
  longest : ∀ other, other <+: path.dropLast →
    (∀ front, front ≠ [] → front <+: other → graph.holding front = .map) → other <+: reached

/-- A path leads to one place only. -/
theorem Graph.LeadsTo.unique {graph : Graph} {path reached other : List Scalar}
    (leads : graph.LeadsTo path reached) (also : graph.LeadsTo path other) : reached = other :=
  (also.longest reached leads.within leads.maps).eq_of_length_le
    (leads.longest other also.within also.maps).length_le

namespace Settings

variable {shelf : Shelf}

/-- One key leads to the map under it. -/
theorem mapAt?_singleton (origin : Origin) (branches : Branches) (key : Scalar) :
    (Tree.map origin branches).mapAt? shelf [key] = mapUnder? shelf key branches := by
  simp [Tree.mapAt?_cons, mapUnder?]

/-- What a path leads to below a key it leads to from the map under the key. -/
theorem mapAt?_of_under {key : Scalar} {branches : Branches} {found : Origin × Branches}
    (under : mapUnder? shelf key branches = some found) (origin : Origin) (rest : List Scalar) :
    (Tree.map origin branches).mapAt? shelf (key :: rest) =
      (Tree.map found.1 found.2).mapAt? shelf rest := by
  rw [← mapAt?_singleton origin] at under
  rw [← List.singleton_append, Tree.mapAt?_append, under, Option.bind_some]

/-- A write below a map follows its path up to the last key or up to where there is no map. -/
theorem editBelow_follows (shelf : Shelf) (put : Planting) (key : Scalar)
    (rest above : List Scalar) (origin : Origin) (branches : Branches) :
    ∃ along last ending target below, key :: rest = along ++ last :: ending ∧
      (Tree.map origin branches).mapAt? shelf along = some (target, below) ∧
      (ending = [] ∨ mapUnder? shelf last below = none) ∧
      editBelow shelf put origin above (key :: rest) branches =
        ⟨target, put (above ++ along) last ending below⟩ := by
  induction rest generalizing key above origin branches with
  | nil => exact ⟨[], key, [], origin, branches, rfl, by simp, .inl rfl, by simp [editBelow]⟩
  | cons next rest ih =>
    cases inner : mapUnder? shelf key branches with
    | none =>
      exact ⟨[], key, next :: rest, origin, branches, rfl, by simp, .inr inner,
        by simp [editBelow_cons, inner]⟩
    | some found =>
      obtain ⟨along, last, ending, target, below, split, reached, stops, written⟩ :=
        ih next (above ++ [key]) found.1 found.2
      exact ⟨key :: along, last, ending, target, below, by rw [split]; rfl,
        (mapAt?_of_under inner origin along).trans reached, stops,
        by simpa [editBelow_cons, inner] using written⟩

/-- A write follows its path up to the last key or up to where there is no map. At the top it changes
the settings themselves. -/
theorem writeAt_follows (shelf : Shelf) (put : Planting) {path : List Scalar} (leads : path ≠ [])
    (branches : Branches) :
    ∃ along last ending target below, path = along ++ last :: ending ∧
      (Tree.map .alone branches).mapAt? shelf along = some (target, below) ∧
      (ending = [] ∨ mapUnder? shelf last below = none) ∧
      writeAt shelf put path branches =
        if along.isEmpty then .top (put [] last ending branches)
        else .inner ⟨target, put along last ending below⟩ := by
  obtain ⟨key, rest, rfl⟩ := List.exists_cons_of_ne_nil leads
  cases rest with
  | nil => exact ⟨[], key, [], .alone, branches, rfl, by simp, .inl rfl, by simp [writeAt]⟩
  | cons next rest =>
    cases inner : mapUnder? shelf key branches with
    | none =>
      exact ⟨[], key, next :: rest, .alone, branches, rfl, by simp, .inr inner,
        by simp [writeAt_cons, inner]⟩
    | some found =>
      obtain ⟨along, last, ending, target, below, split, reached, stops, written⟩ :=
        editBelow_follows shelf put next rest [key] found.1 found.2
      exact ⟨key :: along, last, ending, target, below, by rw [split]; rfl,
        (mapAt?_of_under inner .alone along).trans reached, stops,
        by simp [writeAt_cons, inner, written]⟩

/-- Where a write stops its path leads no further. -/
theorem leadsTo_of_stops {graph : Graph} {along ending : List Scalar} {last : Scalar}
    {target : Origin} {below : Branches}
    (reached : graph.root.mapAt? graph.shelf along = some (target, below))
    (stops : ending = [] ∨ mapUnder? graph.shelf last below = none) :
    graph.LeadsTo (along ++ last :: ending) along where
  within := by
    rw [List.dropLast_append_of_ne_nil (List.cons_ne_nil last ending)]
    exact List.prefix_append ..
  maps front _ isFront :=
    (graph.holding_eq_map_iff front).mpr (Tree.mapAt?_of_prefix isFront reached)
  longest other within maps := by
    rw [List.dropLast_append_of_ne_nil (List.cons_ne_nil last ending)] at within
    rcases stops with rfl | noMap
    · simpa using within
    · rcases List.prefix_or_prefix_of_prefix within (List.prefix_append ..) with short | long
      · exact short
      · obtain ⟨tail, rfl⟩ := long
        cases tail with
        | nil => simp
        | cons key tail =>
          -- Its next key would be the last one, and there is no map under that.
          have inOrder : key :: tail <+: last :: ending :=
            ((List.prefix_append_right_inj along).mp within).trans (List.dropLast_prefix _)
          obtain ⟨rfl, -⟩ := List.cons_prefix_cons.mp inOrder
          have deeper := (graph.holding_eq_map_iff (along ++ [key])).mp
            (maps (along ++ [key]) (by simp) (by simp))
          rw [Tree.mapAt?_append, reached, Option.bind_some, mapAt?_singleton, noMap] at deeper
          contradiction

/-- There is a key, also in an empty text. -/
theorem dottedPath_ne_nil (dotted : String) : dottedPath dotted ≠ [] := by
  simp [dottedPath, Text.pieces_ne_nil]

/-- A write at a dotted key changes the innermost map that the key leads to before its last part. -/
theorem Store.write_follows (store : Store) (put : Planting) (dotted : String) :
    ∃ along last ending target below, dottedPath dotted = along ++ last :: ending ∧
      store.settings.root.mapAt? store.shelf along = some (target, below) ∧
      store.settings.LeadsTo (dottedPath dotted) along ∧
      (store.write put dotted).1 =
        if along.isEmpty then { store with current := put [] last ending store.current }
        else store.amend ⟨target, put along last ending below⟩ := by
  obtain ⟨along, last, ending, target, below, split, reached, stops, written⟩ :=
    writeAt_follows store.shelf put (dottedPath_ne_nil dotted) store.current
  have leads : store.settings.LeadsTo (along ++ last :: ending) along :=
    leadsTo_of_stops reached stops
  refine ⟨along, last, ending, target, below, split, reached, split ▸ leads, ?_⟩
  rw [write, written]
  cases along.isEmpty <;> rfl

/-- To set a value plants it in the last map that its path leads to, be it the one at the top. -/
theorem Store.set_follows (store : Store) (moment : Nat) (dotted : String) (item : Value) :
    ∃ along last ending target below, dottedPath dotted = along ++ last :: ending ∧
      store.settings.root.mapAt? store.shelf along = some (target, below) ∧
      store.settings.LeadsTo (dottedPath dotted) along ∧
      (store.set moment dotted item).1 =
        if along.isEmpty then { store with current := plant moment item [] last ending store.current }
        else store.amend ⟨target, plant moment item along last ending below⟩ :=
  store.write_follows _ dotted

end Settings

end Switchboard
