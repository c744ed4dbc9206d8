import Switchboard.Proofs.Settings.Timing

/-!
# Where maps stand

A map that is made has the path that it is made under for its origin, and there it stands: in merged
settings, in the built-in ones, and wherever else it is shared. That holds of the maps of tidy moments,
those in which all was made in its place; it does not hold of what is written into a map that a file
puts in several places. Such a map has no tidy maps in it, so no write takes a tidy map out of its place
(`Store.Placed`).
-/

namespace Switchboard

/-- The keys that a path leads by. -/
def placeOf (path : List Scalar) : List Identity := path.map Scalar.identity

/-- A path after another leads on from its place. -/
@[simp] theorem placeOf_append (front back : List Scalar) :
    placeOf (front ++ back) = placeOf front ++ placeOf back := List.map_append

/-- One key leads to a place under it. -/
@[simp] theorem placeOf_singleton (key : Scalar) : placeOf [key] = [key.identity] := rfl

/-- A path leads by its first key and then on. -/
theorem placeOf_cons (key : Scalar) (rest : List Scalar) :
    placeOf (key :: rest) = key.identity :: placeOf rest := rfl

/-- Keys are the same where they have one identity. -/
theorem Scalar.beq_iff {key other : Scalar} :
    (key == other) = true ↔ key.identity = other.identity := by
  simp [BEq.beq]

/-- Paths are the same where they lead to one place. -/
theorem path_beq_iff {path other : List Scalar} :
    (path == other) = true ↔ placeOf path = placeOf other := by
  induction path generalizing other with
  | nil => cases other <;> simp [placeOf]
  | cons key rest ih =>
    cases other with
    | nil => simp [placeOf]
    | cons otherKey otherRest => simp [placeOf_cons, Scalar.beq_iff, ih]

/-- A tree speaks about a place, by whatever keys that is named. -/
theorem Tree.speaksOf_congr {shelf : Shelf} {tree : Tree} {path other : List Scalar}
    (same : placeOf path = placeOf other) : tree.speaksOf shelf path = tree.speaksOf shelf other := by
  induction path generalizing tree other with
  | nil =>
    obtain rfl : other = [] := by simpa [placeOf, eq_comm] using same
    rfl
  | cons key rest ih =>
    cases other with
    | nil => simp [placeOf] at same
    | cons otherKey otherRest =>
      obtain ⟨sameKey, sameRest⟩ := List.cons.inj same
      cases isMap : tree.map? shelf with
      | none => simp [speaksOf, isMap]
      | some found =>
        rw [speaksOf_cons_of_map isMap, speaksOf_cons_of_map isMap,
          Entries.get?_congr (Scalar.beq_iff.mpr sameKey)]
        cases Entries.get? otherKey found.2 with
        | none => rfl
        | some below => exact ih sameRest

namespace Origin

/-- Whether an origin is not that of a map that was made. -/
def IsUnmade : Origin → Prop
  | .made _ _ => False
  | .alone | .read _ _ _ => True

/-- What was not made was not made in any moment. -/
theorem IsUnmade.not_madeIn {origin : Origin} {moments : Nat → Prop} (unmade : origin.IsUnmade) :
    ¬origin.IsMadeIn moments := by
  cases origin with
  | made _ _ => exact unmade.elim
  | _ => exact id

/-- Maps were made as one where they were made at one moment in one place. -/
theorem made_beq_iff {moment known : Nat} {path other : List Scalar} :
    (Origin.made moment path == .made known other) = true ↔
      moment = known ∧ placeOf path = placeOf other := by
  have split : (Origin.made moment path == .made known other) =
      (moment == known && path == other) := rfl
  simp [split, path_beq_iff]

end Origin

/-- Where the maps of a tree stand that its keys lead to: each that was made in a tidy moment stands
where it was made, and the others have no tidy maps in them. -/
inductive Tree.Placed (tidy : Nat → Prop) : List Identity → Tree → Prop
  | leaf {place : List Identity} {tree : Tree}
      (noMap : ∀ origin branches, tree ≠ .map origin branches) : Placed tidy place tree
  | made {place : List Identity} {moment : Nat} {path : List Scalar} {branches : Branches}
      (isTidy : tidy moment) (stands : placeOf path = place)
      (below : ∀ branch ∈ branches, Placed tidy (place ++ [branch.1.identity]) branch.2) :
      Placed tidy place (.map (.made moment path) branches)
  | apart {place : List Identity} {origin : Origin} {branches : Branches}
      (none : ∀ found ∈ (Tree.map origin branches).maps, ¬found.1.IsMadeIn tidy) :
      Placed tidy place (.map origin branches)

/-- Branches that stand under a place. -/
def BranchesPlaced (tidy : Nat → Prop) (place : List Identity) (branches : Branches) : Prop :=
  ∀ branch ∈ branches, branch.2.Placed tidy (place ++ [branch.1.identity])

/-- What is found under a key stands in its place. -/
theorem BranchesPlaced.get? {tidy : Nat → Prop} {place : List Identity} {branches : Branches}
    (placed : BranchesPlaced tidy place branches) {key : Scalar} {tree : Tree}
    (under : Entries.get? key branches = some tree) :
    tree.Placed tidy (place ++ [key.identity]) := by
  obtain ⟨other, member, same⟩ := Entries.exists_mem_of_get? under
  have treePlaced := placed (other, tree) member
  rwa [Scalar.beq_iff.mp same] at treePlaced

namespace Tree.Placed

variable {tidy : Nat → Prop} {place : List Identity} {tree : Tree} {origin : Origin}
  {branches : Branches} {shelf : Shelf} {moment : Nat}

/-- A tree without tidy maps may stand anywhere. -/
theorem of_apart (none : ∀ found ∈ tree.maps, ¬found.1.IsMadeIn tidy) : tree.Placed tidy place := by
  cases tree with
  | map origin branches => exact .apart none
  | _ => exact .leaf (by simp)

/-- What stands in its place still does when a later moment is tidy as well. -/
theorem widen {before : Nat} (placed : tree.Placed tidy place)
    (age : ∀ found ∈ tree.maps, found.1.IsBy before) (later : before < moment) :
    tree.Placed (Origin.alsoAt tidy moment) place := by
  induction placed with
  | leaf noMap => exact .leaf noMap
  | made isTidy stands _ ih =>
    refine .made (.inl isTidy) stands fun branch member => ih branch member fun found inside => ?_
    exact age found (List.mem_cons_of_mem _ (mem_branchMaps.mpr ⟨branch, member, inside⟩))
  | apart none =>
    exact .apart fun found member known => none found member (known.narrow (age found member) later)

/-- What is in a map stands below it. -/
theorem within (placed : (Tree.map origin branches).Placed tidy place) :
    BranchesPlaced tidy place branches := by
  intro branch member
  cases placed with
  | leaf noMap => exact absurd rfl (noMap origin branches)
  | made _ _ below => exact below branch member
  | apart none =>
    exact .of_apart fun found inside =>
      none found (List.mem_cons_of_mem _ (mem_branchMaps.mpr ⟨branch, member, inside⟩))

/-- A tidy map was made where it stands. -/
theorem stands (placed : (Tree.map origin branches).Placed tidy place)
    (isTidy : origin.IsMadeIn tidy) :
    ∃ moment path, origin = .made moment path ∧ placeOf path = place := by
  cases placed with
  | leaf noMap => exact absurd rfl (noMap origin branches)
  | made _ stands _ => exact ⟨_, _, rfl, stands⟩
  | apart none => exact absurd isTidy (none _ List.mem_cons_self)

/-- A map that is not tidy has no tidy maps in it. -/
theorem apart_of_not_tidy (placed : (Tree.map origin branches).Placed tidy place)
    (notTidy : ¬origin.IsMadeIn tidy) :
    ∀ found ∈ (Tree.map origin branches).maps, ¬found.1.IsMadeIn tidy := by
  cases placed with
  | leaf noMap => exact absurd rfl (noMap origin branches)
  | made isTidy _ _ => exact absurd isTidy notTidy
  | apart none => exact none

section Opened

variable (untidy : ∀ found ∈ shelf.maps, ¬found.1.IsMadeIn tidy)
include untidy

/-- A map stands where the tree does that is this map, also when it is on a shelf without tidy maps. -/
theorem opened (placed : tree.Placed tidy place) (isMap : tree.map? shelf = some (origin, branches)) :
    (Tree.map origin branches).Placed tidy place := by
  cases tree with
  | map owner inner =>
    obtain ⟨rfl, rfl⟩ : owner = origin ∧ inner = branches := by simpa using isMap
    exact placed
  | shelved named =>
    have onShelf : (origin, branches) ∈ shelf.maps := by
      simpa [Tree.maps] using mem_maps_of_map? isMap
    refine .apart fun found member => ?_
    rcases List.mem_cons.mp member with rfl | inside
    · exact untidy _ onShelf
    · exact untidy found (Shelf.maps_trans onShelf inside)
  | _ => simp [Tree.map?, Tree.opened] at isMap

/-- A map that a path leads to stands where the path leads. -/
theorem mapAt? (placed : tree.Placed tidy place) {path : List Scalar}
    (found : tree.mapAt? shelf path = some (origin, branches)) :
    (Tree.map origin branches).Placed tidy (place ++ placeOf path) := by
  induction path generalizing tree place with
  | nil => simpa [placeOf] using placed.opened untidy (by simpa using found)
  | cons key rest ih =>
    simp only [Tree.mapAt?_cons, Option.bind_eq_some_iff] at found
    obtain ⟨owner, isMap, inner, under, found⟩ := found
    have innerPlaced := (placed.opened untidy isMap).within.get? under
    simpa [placeOf_cons] using ih innerPlaced found

end Opened

end Tree.Placed

mutual

/-- A tree that is made in a tidy moment is made in its place. -/
theorem placed_grow {tidy : Nat → Prop} {moment : Nat} (isTidy : tidy moment) (path : List Scalar)
    (value : Value) : (Tree.grow (.made moment) path value).Placed tidy (placeOf path) := by
  match value with
  | .map entries => exact .made isTidy rfl (branchesPlaced_grow isTidy path entries)
  | .scalar _ | .set _ | .again _ => exact .leaf (by simp [Tree.grow])
  | .list _ | .pair _ _ => exact .leaf (by simp [Tree.grow])

/-- What grows along its paths stands in its place. -/
theorem branchesPlaced_grow {tidy : Nat → Prop} {moment : Nat} (isTidy : tidy moment)
    (path : List Scalar) (entries : List (Scalar × Value)) :
    BranchesPlaced tidy (placeOf path) (growBranches (.made moment) path entries) := by
  match entries with
  | [] => exact List.forall_mem_nil _
  | (key, item) :: rest =>
    refine List.forall_mem_cons.mpr ⟨?_, branchesPlaced_grow isTidy path rest⟩
    simpa using placed_grow isTidy (path ++ [key]) item

end

namespace Settings

section Merging

variable {tidy : Nat → Prop} {moment : Nat} {shelf : Shelf} (isTidy : tidy moment)
  (untidy : ∀ found ∈ shelf.maps, ¬found.1.IsMadeIn tidy)

/-- A step of a merge that keeps what is under a key in its place keeps all branches in theirs. -/
theorem branchesPlaced_merged {merge : Scalar → Tree → Tree → Option Tree} {place : List Identity}
    {lower upper found : Branches}
    (step : ∀ key tree higher result, merge key tree higher = some result →
      tree.Placed tidy (place ++ [key.identity]) → higher.Placed tidy (place ++ [key.identity]) →
      result.Placed tidy (place ++ [key.identity]))
    (lowerPlaced : BranchesPlaced tidy place lower) (upperPlaced : BranchesPlaced tidy place upper)
    (made : mergeLower merge lower upper = some found) :
    BranchesPlaced tidy place (found ++ newBranches lower upper) := by
  intro branch member
  rcases List.mem_append.mp member with merged | added
  · obtain ⟨tree, among, under⟩ := mem_mergeLower made merged
    have treePlaced := lowerPlaced (branch.1, tree) among
    unfold mergeUnder at under
    cases above : Entries.get? branch.1 upper with
    | none =>
      obtain rfl : tree = branch.2 := by simpa [above] using under
      exact treePlaced
    | some higher =>
      exact step branch.1 tree higher branch.2 (by simpa [above] using under) treePlaced
        (upperPlaced.get? above)
  · exact upperPlaced branch (List.mem_filter.mp added).1

include isTidy untidy

/-- What is merged stands where both trees stood. -/
theorem placed_merge {fuel : Nat} {path : List Scalar} {lower upper merged : Tree}
    (made : merge? shelf moment fuel path lower upper = some merged)
    (lowerPlaced : lower.Placed tidy (placeOf path)) (upperPlaced : upper.Placed tidy (placeOf path)) :
    merged.Placed tidy (placeOf path) := by
  induction fuel generalizing path lower upper merged with
  | zero => simp [merge?] at made
  | succ fuel ih =>
    obtain ⟨less, lowOrigin, low, highOrigin, high, found, same, isLow, isHigh, foundMade, rfl⟩ |
      ⟨_, rfl⟩ := merge?_cases made
    · obtain rfl : fuel = less := by simpa using same
      refine .made isTidy rfl (branchesPlaced_merged (fun key tree higher result known => ?_)
        (lowerPlaced.opened untidy isLow).within (upperPlaced.opened untidy isHigh).within foundMade)
      simpa using ih known
    · exact upperPlaced

/-- Merged maps stand at the top as both did. -/
theorem branchesPlaced_mergeBranches {lower upper merged : Branches}
    (made : mergeBranches? shelf moment lower upper = some merged)
    (lowerPlaced : BranchesPlaced tidy [] lower) (upperPlaced : BranchesPlaced tidy [] upper) :
    BranchesPlaced tidy [] merged := by
  simp only [mergeBranches?, Option.pure_def, Option.bind_eq_bind, Option.bind_eq_some_iff,
    Option.some.injEq] at made
  obtain ⟨found, foundMade, rfl⟩ := made
  refine branchesPlaced_merged (fun key tree higher result known => ?_) lowerPlaced upperPlaced
    foundMade
  exact placed_merge isTidy untidy known

end Merging

section Writing

variable {tidy : Nat → Prop} {place : List Identity} {tree : Tree} {edit : Edit}

/-- A write into a map that stays in its place leaves all maps in their places. -/
theorem placed_amend {other : List Identity} (placed : tree.Placed tidy place)
    (written : (Tree.map edit.target edit.branches).Placed tidy other) :
    (tree.amend edit).Placed tidy place := by
  induction placed with
  | @leaf place tree noMap =>
    cases tree with
    | map origin branches => exact absurd rfl (noMap origin branches)
    | _ => exact .leaf (by simp [Tree.amend])
  | @made place moment path branches isTidy stands _ ih =>
    rw [Tree.amend]
    refine .made isTidy stands ?_
    split
    next isTarget =>
      have targetTidy : edit.target.IsMadeIn tidy :=
        (Origin.IsMadeIn.congr isTarget).mp (show (Origin.made moment path).IsMadeIn tidy from isTidy)
      obtain ⟨known, origin, isOrigin, rfl⟩ := written.stands targetTidy
      rw [isOrigin, Origin.made_beq_iff] at isTarget
      rw [← stands, isTarget.2]
      exact written.within
    next =>
      rw [amendBranches_eq_map]
      intro branch member
      obtain ⟨old, among, rfl⟩ := List.mem_map.mp member
      exact ih old among
  | @apart place origin branches none =>
    by_cases targetTidy : edit.target.IsMadeIn tidy
    · -- It is not the map that is written into, and neither is any in it.
      rw [amend_of_absent fun found member => targetTidy.beq_eq_false_right (none found member)]
      exact .apart none
    · refine .of_apart fun found member => ?_
      have untidy := written.apart_of_not_tidy targetTidy
      rcases (maps_amend member).old_or_written with ⟨old, known, same⟩ | inside
      · exact same ▸ none old known
      · exact untidy found (List.mem_cons_of_mem _ inside)

/-- Entries stand in their places after an edit whose map stands in its own. -/
theorem branchesPlaced_amend {other : List Identity} {branches : Branches}
    (placed : BranchesPlaced tidy place branches)
    (written : (Tree.map edit.target edit.branches).Placed tidy other) :
    BranchesPlaced tidy place (amendBranches edit branches) := by
  rw [amendBranches_eq_map]
  intro branch member
  obtain ⟨old, among, rfl⟩ := List.mem_map.mp member
  exact placed_amend (placed old among) written

end Writing

section Planting

variable {tidy : Nat → Prop} {moment : Nat} {item : Value} {key : Scalar} {above rest : List Scalar}
  {branches : Branches}

/-- What is planted in a tidy moment is planted in its place. -/
theorem placed_plant (isTidy : tidy moment)
    (placed : BranchesPlaced tidy (placeOf above) branches) :
    BranchesPlaced tidy (placeOf above) (plant moment item above key rest branches) := by
  intro branch member
  rcases Entries.mem_put member with old | ⟨same, planted⟩
  · exact placed branch old
  · rw [planted, Scalar.beq_iff.mp same]
    simpa using placed_grow isTidy (above ++ [key]) (nested rest item)

/-- What is planted in a tidy map stands in its place. -/
theorem placed_map_plant {target : Origin} (isTidy : tidy moment)
    (placed : (Tree.map target branches).Placed tidy (placeOf above))
    (targetTidy : target.IsMadeIn tidy) :
    (Tree.map target (plant moment item above key rest branches)).Placed tidy (placeOf above) := by
  obtain ⟨known, path, rfl, stands⟩ := placed.stands targetTidy
  exact .made targetTidy stands (placed_plant isTidy placed.within)

/-- Into branches without tidy maps none are planted in another moment. -/
theorem plant_apart (notTidy : ¬tidy moment)
    (none : ∀ found ∈ branchMaps branches, ¬found.1.IsMadeIn tidy) :
    ∀ found ∈ branchMaps (plant moment item above key rest branches), ¬found.1.IsMadeIn tidy := by
  intro found member
  rcases branchMaps_plant member with old | ⟨⟨path, isNew⟩, -⟩
  · exact none found old
  · rw [isNew]
    exact notTidy

end Planting

section Reading

variable {tidy : Nat → Prop}

/-- A graph whose tree stands at the top of the settings; what is on its shelf is not tidy. -/
structure IsPlaced (tidy : Nat → Prop) (graph : Graph) : Prop where
  root : graph.root.Placed tidy []
  shelf : ∀ found ∈ graph.shelf.maps, ¬found.1.IsMadeIn tidy

/-- A graph without maps that were made may stand anywhere. -/
theorem IsPlaced.of_unmade {graph : Graph} (root : ∀ found ∈ graph.root.maps, found.1.IsUnmade)
    (shelf : ∀ found ∈ graph.shelf.maps, found.1.IsUnmade) : IsPlaced tidy graph where
  root := .of_apart fun found member => (root found member).not_madeIn
  shelf found member := (shelf found member).not_madeIn

/-- A value whose maps are nobody's stands in its place. -/
theorem IsPlaced.ofValue (value : Value) : IsPlaced tidy (.ofValue value) :=
  .of_unmade (maps_grow Origin.IsUnmade (fun _ => .alone) (fun _ => trivial) [] value)
    (by simp [Graph.ofValue, Shelf.maps])

/-- What grows in a tidy moment stands in its place. -/
theorem IsPlaced.grow {occasion : Occasion} (isTidy : tidy occasion.moment) (value : Value) :
    IsPlaced tidy (occasion.grow value) where
  root := by
    let labels : Relabelling := ⟨fun _ => occasion.moment, fun _ => occasion.source⟩
    have grown : (Tree.grow (.made 0) [] value).relabel labels =
        Tree.grow (.made occasion.moment) [] (value.mapMarks (Mark.relabel labels)) :=
      grow_relabel (fun _ => rfl) [] value
    rw [Occasion.grow, Occasion.stamp, Graph.relabel, grown]
    exact placed_grow isTidy [] _
  shelf := by simp [Occasion.grow, Occasion.stamp, Graph.relabel, Shelf.relabel, Shelf.maps]

/-- What a text of YAML writes has no maps that were made. -/
theorem IsPlaced.ofYaml {occasion : Occasion} {text : Yaml.Source} {made : Graph}
    (read : Yaml.read text = .ok made) : IsPlaced tidy (occasion.stamp made) := by
  have unmade : ∀ origin : Origin, origin.IsUnmade → ∀ labels, (origin.relabel labels).IsUnmade := by
    intro origin known labels
    cases origin <;> exact known
  have maps : (∀ found ∈ made.root.maps, found.1.IsUnmade) ∧
      ∀ entry ∈ made.shelf, ∀ found ∈ entry.2.maps, found.1.IsUnmade := by
    obtain rfl | ⟨root, contents, rfl⟩ := Yaml.read_cases read
    · simp [default, Tree.maps]
    · exact Yaml.Assembly.graph_maps (fun _ => trivial) contents root
  refine .of_unmade (fun found member => ?_) fun found member => ?_
  · obtain ⟨old, known, same⟩ := Tree.mem_maps_relabel member
    exact same ▸ unmade old.1 (maps.1 old known) _
  · obtain ⟨_, among, inEntry⟩ := Shelf.mem_maps.mp member
    obtain ⟨entry, isEntry, rfl⟩ := List.mem_map.mp among
    obtain ⟨old, known, same⟩ := Tree.mem_maps_relabel inEntry
    exact same ▸ unmade old.1 (maps.2 entry isEntry old known) _

/-- What is read in a tidy moment stands in its place. -/
theorem isPlaced_readLayer {files : Files} {occasion : Occasion} {path : String} {graph : Graph}
    (isTidy : tidy occasion.moment) (read : (readLayer files occasion path).result = .ok graph) :
    IsPlaced tidy graph := by
  cases readLayer_yields read with
  | nothing => exact .ofValue _
  | grown value => exact .grow isTidy value
  | written text => exact .ofYaml text

end Reading

namespace Store

section Loading

variable {tidy : Nat → Prop} {moment : Nat} {store : Store} {surroundings : Surroundings}
  {name : String} {layer : Graph} {below above layers : Layers}

/-- Layers in which everything stands in its place. -/
structure Layers.Placed (tidy : Nat → Prop) (layers : Layers) : Prop where
  branches : BranchesPlaced tidy [] layers.branches
  shelf : ∀ found ∈ layers.shelf.maps, ¬found.1.IsMadeIn tidy

/-- Layers stand in their places after one that does was added. -/
theorem addLayer_placed (isTidy : tidy moment) (layerPlaced : IsPlaced tidy layer)
    (belowPlaced : below.Placed tidy)
    (added : (addLayer moment name layer below).result = .ok above) : above.Placed tidy := by
  obtain ⟨_, rfl⟩ | ⟨_, -, owner, branches, isLayer, made⟩ := addLayer_cases added
  · exact belowPlaced
  · have untidy : ∀ found ∈ above.shelf.maps, ¬found.1.IsMadeIn tidy := fun found member =>
      (mem_shelfMaps_of_addLayer added member).elim (layerPlaced.shelf found) (belowPlaced.shelf found)
    have upper := (layerPlaced.root.opened layerPlaced.shelf isLayer).within
    exact ⟨branchesPlaced_mergeBranches isTidy untidy made belowPlaced.branches upper, untidy⟩

/-- The built-in layer stands in its place. -/
theorem placed_builtin (builtin : BranchesPlaced tidy [] store.builtin) :
    ({ branches := store.builtin } : Layers).Placed tidy :=
  ⟨builtin, by simp [Shelf.maps]⟩

/-- All layers of a load in a tidy moment stand in their places. -/
theorem assemble_placed (isTidy : tidy moment) (builtin : BranchesPlaced tidy [] store.builtin)
    (assembled : (store.assemble moment surroundings).result = .ok layers) : layers.Placed tidy := by
  obtain ⟨base, defaultFile, withDefaults, localFile, withLocal, overrides, first, reads, second,
    third, last⟩ := assemble_eq_ok_iff.mp assembled
  obtain rfl : { branches := store.builtin } = base := by
    simpa [addLayer_builtin] using first
  have defaults := addLayer_placed isTidy (isPlaced_readLayer isTidy reads.ofDefaults)
    (placed_builtin builtin) second
  have locals := addLayer_placed isTidy (isPlaced_readLayer isTidy reads.ofLocal) defaults third
  exact addLayer_placed isTidy (.grow isTidy _) locals last

end Loading

/-- Everything in a store stands in its place, and what stands in several places of the settings in
force is not tidy. -/
structure Placed (tidy : Nat → Prop) (moment : Nat) (store : Store) : Prop where
  past : ∀ known, tidy known → known ≤ moment
  builtin : BranchesPlaced tidy [] store.builtin
  current : BranchesPlaced tidy [] store.current
  shelf : ∀ found ∈ store.shelf.maps, ¬found.1.IsMadeIn tidy

section Invariant

variable {tidy : Nat → Prop} {before moment : Nat} {store : Store}

namespace Placed

/-- In a fresh store everything stands in its place. -/
theorem fresh (folder : String) : Placed (· = 0) 0 { folder } where
  past _ known := Nat.le_of_eq known
  builtin := by
    refine branchesPlaced_grow ?_ [] Settings.builtin
    rfl
  current := List.forall_mem_nil _
  shelf := by simp [Shelf.maps]

/-- A store in which everything stands in its place is such a store later on. -/
theorem mono (placed : Placed tidy before store) (le : before ≤ moment) :
    Placed tidy moment store :=
  { placed with past := fun known isTidy => Nat.le_trans (placed.past known isTidy) le }

/-- What comes into being at a later moment may count as tidy. -/
theorem widen {kept : Nat → Prop} (placed : Placed tidy before store)
    (separated : Separated kept before store) (later : before < moment) :
    Placed (Origin.alsoAt tidy moment) moment store := by
  refine ⟨?past, ?builtin, ?current, ?shelf⟩
  case past =>
    rintro known (isTidy | rfl)
    · exact Nat.le_trans (placed.past known isTidy) (Nat.le_of_lt later)
    · exact Nat.le_refl known
  case builtin =>
    refine fun branch member => (placed.builtin branch member).widen (fun found inside => ?_) later
    exact (separated.fits_builtin (mem_branchMaps.mpr ⟨branch, member, inside⟩)).age
  case current =>
    refine fun branch member => (placed.current branch member).widen (fun found inside => ?_) later
    exact (separated.fits found
      (List.mem_append_left _ (mem_branchMaps.mpr ⟨branch, member, inside⟩))).age
  case shelf =>
    intro found member known
    have age := (separated.fits found (List.mem_append_right _ member)).age
    exact placed.shelf found member (known.narrow age later)

/-- A load leaves everything in its place, and what it made is tidy. -/
theorem load {kept : Nat → Prop} (placed : Placed tidy before store)
    (separated : Separated kept before store) (later : before < moment)
    (surroundings : Surroundings) :
    Placed (Origin.alsoAt tidy moment) moment (store.load moment surroundings).1 := by
  have widened := placed.widen separated later
  cases assembled : (store.assemble moment surroundings).result with
  | error fault =>
    rw [load_of_error assembled]
    exact widened
  | ok layers =>
    rw [load_of_ok assembled]
    have after := assemble_placed (.inr rfl) widened.builtin assembled
    exact { widened with current := after.branches, shelf := after.shelf }

/-- A map that a path leads to in the settings in force stands at the end of the path. -/
theorem mapAt? (placed : Placed tidy moment store) {path : List Scalar} (below : path ≠ [])
    {origin : Origin} {branches : Branches}
    (found : store.settings.root.mapAt? store.shelf path = some (origin, branches)) :
    (Tree.map origin branches).Placed tidy (placeOf path) := by
  obtain ⟨key, rest, rfl⟩ := List.exists_cons_of_ne_nil below
  simp only [settings, Tree.mapAt?_cons, Tree.map?_map, Option.bind_some,
    Option.bind_eq_some_iff] at found
  obtain ⟨inner, under, found⟩ := found
  exact (placed.current.get? under).mapAt? placed.shelf found

/-- An edit whose map stands in its place leaves everything in its place. -/
theorem amend (placed : Placed tidy moment store) {edit : Edit} {place : List Identity}
    (written : (Tree.map edit.target edit.branches).Placed tidy place) :
    Placed tidy moment (store.amend edit) where
  past := placed.past
  builtin := branchesPlaced_amend placed.builtin written
  current := branchesPlaced_amend placed.current written
  shelf found member := by
    by_cases targetTidy : edit.target.IsMadeIn tidy
    · have same : (store.amend edit).shelf = store.shelf := Shelf.amend_of_absent
        fun found member => targetTidy.beq_eq_false_right (placed.shelf found member)
      exact placed.shelf found (same ▸ member)
    · rcases (Shelf.maps_amend member).old_or_written with ⟨old, known, same⟩ | inside
      · exact same ▸ placed.shelf old known
      · exact written.apart_of_not_tidy targetTidy found (List.mem_cons_of_mem _ inside)

variable {key : Scalar} {rest : List Scalar} {target : Origin} {below : Branches}

/-- What is written into a tidy map is made in its place. -/
theorem amend_of_tidy (placed : Placed tidy moment store)
    (here : store.settings.root.mapAt? store.shelf (key :: rest) = some (target, below))
    (targetTidy : target.IsMadeIn tidy) (isTidy : tidy moment) (last : Scalar) (ending : List Scalar)
    (item : Value) :
    Placed tidy moment (store.amend ⟨target, plant moment item (key :: rest) last ending below⟩) :=
  placed.amend <|
    placed_map_plant isTidy (placed.mapAt? (List.cons_ne_nil _ _) here) targetTidy

/-- A map that is not tidy has no tidy maps in it after a write at a later moment either. -/
theorem amend_of_not_tidy (placed : Placed tidy before store) (later : before < moment)
    (here : store.settings.root.mapAt? store.shelf (key :: rest) = some (target, below))
    (notTidy : ¬target.IsMadeIn tidy) (last : Scalar) (ending : List Scalar) (item : Value) :
    Placed tidy moment (store.amend ⟨target, plant moment item (key :: rest) last ending below⟩) := by
  have apart := (placed.mapAt? (List.cons_ne_nil _ _) here).apart_of_not_tidy notTidy
  have momentNotTidy : ¬tidy moment := fun isTidy =>
    Nat.not_le_of_lt later (placed.past moment isTidy)
  have planted : (Tree.map target (plant moment item (key :: rest) last ending below)).Placed
      tidy (placeOf (key :: rest)) :=
    .apart (List.forall_mem_cons.mpr
      ⟨notTidy, plant_apart momentNotTidy (List.forall_mem_cons.mp apart).2⟩)
  exact (placed.mono (Nat.le_of_lt later)).amend planted

end Placed

/-- After a write there are again moments in which all was made in its place. -/
theorem Placed.set {kept : Nat → Prop} (placed : Placed tidy before store)
    (separated : Separated kept before store) (all : ∀ known, kept known → tidy known)
    (later : before < moment) (dotted : String) (item : Value) :
    ∃ also others, Separated also moment (store.set moment dotted item).1 ∧
      Placed others moment (store.set moment dotted item).1 ∧ ∀ known, also known → others known := by
  obtain ⟨along, last, ending, target, below, -, reached, -, written⟩ :=
    store.set_follows moment dotted item
  have widened := placed.widen separated later
  have allWidened : ∀ known, kept known → Origin.alsoAt tidy moment known :=
    fun known isKept => .inl (all known isKept)
  rw [written]
  cases along with
  | nil =>
    have planted : BranchesPlaced (Origin.alsoAt tidy moment) (placeOf [])
        (plant moment item [] last ending store.current) := placed_plant (.inr rfl) widened.current
    exact ⟨_, _, separated.plantTop later, { widened with current := planted }, allWidened⟩
  | cons key rest =>
    have known : (target, below) ∈ store.maps := mem_maps_of_mapAt? (List.cons_ne_nil _ _) reached
    by_cases targetTidy : target.IsMadeIn tidy
    · have after := widened.amend_of_tidy reached targetTidy.widen (.inr rfl) last ending item
      by_cases shared : target.IsMadeIn kept
      · exact ⟨_, _, separated.amend_of_shared later known shared, after, fun known isKept =>
          isKept.imp_left (all known)⟩
      · exact ⟨_, _, separated.amend_of_apart later known shared, after, allWidened⟩
    · have notShared : ¬target.IsMadeIn kept := fun shared => targetTidy (shared.mono all)
      exact ⟨_, _, separated.amend_of_apart later known notShared,
        placed.amend_of_not_tidy later reached targetTidy last ending item, all⟩

/-- What was made in the moments that the built-in settings share stands in its place. -/
theorem Reachable.placed {folder : String} (reachable : Reachable folder moment store) :
    ∃ kept tidy, Separated kept moment store ∧ Placed tidy moment store ∧
      ∀ known, kept known → tidy known := by
  induction reachable with
  | fresh => exact ⟨_, _, .fresh folder, .fresh folder, fun _ => id⟩
  | load _ later surroundings ih =>
    obtain ⟨kept, tidy, separated, placed, all⟩ := ih
    exact ⟨_, _, separated.load later surroundings, placed.load separated later surroundings,
      fun known isKept => .inl (all known isKept)⟩
  | set _ later dotted item ih =>
    obtain ⟨kept, tidy, separated, placed, all⟩ := ih
    exact placed.set separated all later dotted item

end Invariant

end Store

end Settings

end Switchboard
