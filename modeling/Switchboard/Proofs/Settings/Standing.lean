import Switchboard.Proofs.Settings.Parting

/-!
# Where every map stands once

Where no two maps of a graph have one origin and none is on the shelf (`Graph.IsNested`), no map is on the way
to itself, and none stands in what two paths that part lead to.
-/

namespace Switchboard

open Settings

section Once

/-- The maps in items are those of each, in order. -/
theorem itemMaps_eq_flatMap (items : List Tree) : itemMaps items = items.flatMap Tree.maps := by
  induction items with
  | nil => rfl
  | cons item rest ih => simp [itemMaps, ih]

/-- The maps in entries are those of each, in order. -/
theorem branchMaps_eq_flatMap (branches : Branches) :
    branchMaps branches = branches.flatMap fun branch => branch.2.maps := by
  induction branches with
  | nil => rfl
  | cons branch rest ih => simp [branchMaps, ih]

variable {related : Origin × Branches → Origin × Branches → Prop}

/-- What holds between any two maps of a tree holds between any two of a map in it. -/
theorem pairwise_of_mem_maps {tree : Tree} (pairwise : tree.maps.Pairwise related)
    {found : Origin × Branches} (member : found ∈ tree.maps) :
    (found :: branchMaps found.2).Pairwise related := by
  induction tree using Tree.induct with
  | scalar _ => simp [Tree.maps] at member
  | set _ => simp [Tree.maps] at member
  | shelved _ => simp [Tree.maps] at member
  | list items ih =>
    obtain ⟨item, among, inItem⟩ := mem_itemMaps.mp member
    rw [Tree.maps, itemMaps_eq_flatMap, List.pairwise_flatMap] at pairwise
    exact ih item among (pairwise.1 item among) inItem
  | pair first second ofFirst ofSecond =>
    obtain ⟨inFirst, inSecond, -⟩ := List.pairwise_append.mp pairwise
    exact (List.mem_append.mp member).elim (ofFirst inFirst) (ofSecond inSecond)
  | map origin branches ih =>
    rcases List.mem_cons.mp member with rfl | inside
    · exact pairwise
    · obtain ⟨branch, among, inBranch⟩ := mem_branchMaps.mp inside
      have below := (List.pairwise_cons.mp pairwise).2
      rw [branchMaps_eq_flatMap, List.pairwise_flatMap] at below
      exact ih branch among (below.1 branch among) inBranch

/-- Two maps under keys that are not one stand in different branches. -/
theorem related_of_get? {branches : Branches} (pairwise : (branchMaps branches).Pairwise related)
    (symmetric : ∀ found other, related found other → related other found) {key otherKey : Scalar}
    (apart : (key == otherKey) = false) {tree other : Tree}
    (under : Entries.get? key branches = some tree)
    (alsoUnder : Entries.get? otherKey branches = some other) :
    ∀ found ∈ tree.maps, ∀ inner ∈ other.maps, related found inner := by
  induction branches with
  | nil => simp at under
  | cons branch rest ih =>
    obtain ⟨-, later, across⟩ := List.pairwise_append.mp pairwise
    -- A branch later on has its maps among those of the rest.
    have inRest {key : Scalar} {tree : Tree} (found : Entries.get? key rest = some tree) :
        ∀ inner ∈ tree.maps, inner ∈ branchMaps rest :=
      fun _ => mem_branchMaps_of_get? found
    cases isKey : branch.1 == key with
    | true =>
      have isOther : (branch.1 == otherKey) = false := by rw [BEq.congr_left isKey]; exact apart
      obtain rfl : branch.2 = tree := by simpa [Entries.get?, isKey] using under
      have there : Entries.get? otherKey rest = some other := by
        simpa [Entries.get?, isOther] using alsoUnder
      exact fun found member inner inside => across found member inner (inRest there inner inside)
    | false =>
      have here : Entries.get? key rest = some tree := by simpa [Entries.get?, isKey] using under
      cases isOther : branch.1 == otherKey with
      | true =>
        obtain rfl : branch.2 = other := by simpa [Entries.get?, isOther] using alsoUnder
        exact fun found member inner inside =>
          symmetric _ _ (across inner inside found (inRest here found member))
      | false =>
        exact ih later here (by simpa [Entries.get?, isOther] using alsoUnder)

/-- Where there are no maps on the shelf a tree holds its own maps only. -/
theorem Tree.Holds.exists_own {shelf : Shelf} {target : Origin} {tree : Tree}
    (noMaps : shelf.maps = []) (holds : tree.Holds shelf target) :
    ∃ found ∈ tree.maps, (found.1 == target) = true := by
  induction holds with
  | own member same => exact ⟨_, member, same⟩
  | @named _ origin _ _ ih =>
    obtain ⟨found, member, _⟩ := ih
    cases known : Entries.get? origin shelf with
    | none => simp [Shelf.take, known, Tree.maps, itemMaps] at member
    | some taken =>
      obtain ⟨key, among, _⟩ := Entries.exists_mem_of_get? known
      have onShelf : found ∈ shelf.maps :=
        Shelf.mem_maps.mpr ⟨(key, taken), among, by simpa [Shelf.take, known] using member⟩
      simp [noMaps] at onShelf

end Once

namespace Graph

variable {graph : Graph} {path reached : List Scalar} {target : Origin} {below : Branches}

/-- Whether every map of a graph stands once: no two have one origin, and there is none on the shelf. -/
structure IsNested (graph : Graph) : Prop where
  noMaps : graph.shelf.maps = []
  once : graph.root.maps.Pairwise fun found other => (found.1 == other.1) = false

namespace IsNested

variable (nested : graph.IsNested)
include nested

/-- A map that a path leads to is one of the graph itself. -/
theorem mem_maps {owner : Origin × Branches}
    (here : graph.root.mapAt? graph.shelf path = some owner) : owner ∈ graph.root.maps :=
  (Tree.mem_maps_of_mapAt? here).resolve_right (by simp [nested.noMaps])

/-- No map stands again in what it leads to. -/
theorem apart_of_at? (here : graph.root.mapAt? graph.shelf reached = some (target, below))
    {key : Scalar} {rest : List Scalar} {tree : Tree}
    (there : graph.root.at? graph.shelf (reached ++ key :: rest) = some tree) :
    ∀ found ∈ tree.maps, (target == found.1) = false := by
  intro found member
  rw [Tree.at?_append_cons here, Option.bind_eq_some_iff] at there
  obtain ⟨inner, under, there⟩ := there
  have inInner := (Tree.maps_of_at? there member).resolve_right (by simp [nested.noMaps])
  exact (List.pairwise_cons.mp (pairwise_of_mem_maps nested.once (nested.mem_maps here))).1 found
    (mem_branchMaps_of_get? under inInner)

/-- Where two paths part, what one leads to holds none of the maps that the other leads to. -/
theorem apart_of_fork {common rest tail : List Scalar} {key otherKey : Scalar} {tree : Tree}
    (apart : (key == otherKey) = false)
    (here : graph.root.mapAt? graph.shelf (common ++ key :: rest) = some (target, below))
    (there : graph.root.at? graph.shelf (common ++ otherKey :: tail) = some tree) :
    ∀ found ∈ tree.maps, (target == found.1) = false := by
  intro found member
  obtain ⟨owner, above⟩ := Option.isSome_iff_exists.mp
    (Tree.mapAt?_of_prefix (List.prefix_append ..) here)
  rw [Tree.at?_append_cons above, Option.bind_eq_some_iff] at there
  obtain ⟨other, alsoUnder, there⟩ := there
  rw [Tree.mapAt?_append, above, Option.bind_some, Tree.mapAt?_cons, Tree.map?_map,
    Option.bind_some, Option.bind_eq_some_iff] at here
  obtain ⟨inner, under, here⟩ := here
  have inInner := (Tree.mem_maps_of_mapAt? here).resolve_right (by simp [nested.noMaps])
  have inOther := (Tree.maps_of_at? there member).resolve_right (by simp [nested.noMaps])
  have once := List.pairwise_cons.mp (pairwise_of_mem_maps nested.once (nested.mem_maps above))
  exact related_of_get? once.2 (fun _ _ known => by rw [BEq.comm]; exact known) apart under alsoUnder
    _ inInner found inOther

/-- In settings that are nested maps, the path to a map does not lead through it before. -/
theorem avoids (here : graph.root.mapAt? graph.shelf reached = some (target, below)) :
    graph.root.Avoids graph.shelf target reached := by
  rintro front found ⟨more, rfl⟩ short there
  have isMore : more ≠ [] := by
    rintro rfl
    exact short (List.append_nil front).symm
  rw [Tree.mapAt?_append, there, Option.bind_some] at here
  have inside : (target, below) ∈ branchMaps found.2 :=
    (mem_branchMaps_of_mapAt? isMore here).resolve_right (by simp [nested.noMaps])
  exact (List.pairwise_cons.mp
    (pairwise_of_mem_maps nested.once (nested.mem_maps there))).1 _ inside

/-- The other path either goes on from the map that is written into or parts from the way to it. -/
theorem spares {other : List Scalar}
    (here : graph.root.mapAt? graph.shelf reached = some (target, below)) (alongPath : reached <+: path)
    (keys : ∀ key ∈ path, ∀ otherKey ∈ other, key ≠ otherKey → (key == otherKey) = false) :
    graph.Spares target path other := by
  intro front tree isFront parts there holds
  obtain ⟨found, member, isTarget⟩ := holds.exists_own nested.noMaps
  suffices apart : (target == found.1) = false by
    rw [BEq.comm] at apart
    simp [apart] at isTarget
  by_cases beyond : reached <+: front
  · obtain ⟨more, rfl⟩ := beyond
    cases more with
    | nil => exact absurd (by simpa using alongPath) parts
    | cons key rest => exact nested.apart_of_at? here there found member
  · obtain ⟨common, key, rest, otherKey, tail, rfl, rfl, differ⟩ :=
      exists_fork beyond fun short => parts (short.trans alongPath)
    have apart := keys key (alongPath.subset (by simp)) otherKey (isFront.subset (by simp)) differ
    exact nested.apart_of_fork apart here there found member

end IsNested

end Graph

end Switchboard
