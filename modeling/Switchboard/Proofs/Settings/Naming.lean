import Switchboard.Proofs.Settings.Holding

/-!
# What trees name

A tree names collections of a shelf by their origins. What was read from a source in a load names
only what was read from that source; so it holds the same on any shelf that has the same under these
origins, whatever else stands there (`Shelf.Agree.holding_eq`).

The maps that a tree has itself are listed beside: to write into a map is to write into every map
of its origin.
-/

namespace Switchboard

mutual

/-- The origins under which a tree names collections of a shelf. -/
def Tree.names : Tree → List Origin
  | .scalar _ | .set _ => []
  | .list items => itemNames items
  | .pair first second => first.names ++ second.names
  | .map _ branches => branchNames branches
  | .shelved origin => [origin]

/-- The origins that items name. -/
def itemNames : List Tree → List Origin
  | [] => []
  | item :: rest => item.names ++ itemNames rest

/-- The origins that entries name. -/
def branchNames : Branches → List Origin
  | [] => []
  | (_, tree) :: rest => tree.names ++ branchNames rest

end

mutual

/-- The maps of a tree, each with its origin; those on a shelf are not its own. -/
def Tree.maps : Tree → List (Origin × Branches)
  | .scalar _ | .set _ | .shelved _ => []
  | .list items => itemMaps items
  | .pair first second => first.maps ++ second.maps
  | .map origin branches => (origin, branches) :: branchMaps branches

/-- The maps in items. -/
def itemMaps : List Tree → List (Origin × Branches)
  | [] => []
  | item :: rest => item.maps ++ itemMaps rest

/-- The maps in entries. -/
def branchMaps : Branches → List (Origin × Branches)
  | [] => []
  | (_, tree) :: rest => tree.maps ++ branchMaps rest

end

/-- What items name, one of them names. -/
theorem mem_itemNames {origin : Origin} {items : List Tree} :
    origin ∈ itemNames items ↔ ∃ item ∈ items, origin ∈ item.names := by
  induction items with
  | nil => simp [itemNames]
  | cons item rest ih => simp [itemNames, ih]

/-- What entries name, one of them names. -/
theorem mem_branchNames {origin : Origin} {branches : Branches} :
    origin ∈ branchNames branches ↔ ∃ branch ∈ branches, origin ∈ branch.2.names := by
  induction branches with
  | nil => simp [branchNames]
  | cons branch rest ih => simp [branchNames, ih]

/-- A map in items is in one of them. -/
theorem mem_itemMaps {found : Origin × Branches} {items : List Tree} :
    found ∈ itemMaps items ↔ ∃ item ∈ items, found ∈ item.maps := by
  induction items with
  | nil => simp [itemMaps]
  | cons item rest ih => simp [itemMaps, ih]

/-- A map in entries is in one of them. -/
theorem mem_branchMaps {found : Origin × Branches} {branches : Branches} :
    found ∈ branchMaps branches ↔ ∃ branch ∈ branches, found ∈ branch.2.maps := by
  induction branches with
  | nil => simp [branchMaps]
  | cons branch rest ih => simp [branchMaps, ih]

/-- What is found under a key names nothing that the branches do not name. -/
theorem mem_branchNames_of_get? {key : Scalar} {tree : Tree} {branches : Branches} {origin : Origin}
    (found : Entries.get? key branches = some tree) (named : origin ∈ tree.names) :
    origin ∈ branchNames branches := by
  obtain ⟨other, member, _⟩ := Entries.exists_mem_of_get? found
  exact mem_branchNames.mpr ⟨(other, tree), member, named⟩

/-- What is found under a key has its maps among those of the branches. -/
theorem mem_branchMaps_of_get? {key : Scalar} {tree : Tree} {branches : Branches}
    (under : Entries.get? key branches = some tree) {found : Origin × Branches}
    (inside : found ∈ tree.maps) : found ∈ branchMaps branches := by
  obtain ⟨other, member, _⟩ := Entries.exists_mem_of_get? under
  exact mem_branchMaps.mpr ⟨(other, tree), member, inside⟩

/-- What holds of a tree whenever it holds of the trees in it holds of all trees. -/
@[elab_as_elim]
theorem Tree.induct {motive : Tree → Prop} (scalar : ∀ content, motive (.scalar content))
    (list : ∀ items, (∀ item ∈ items, motive item) → motive (.list items))
    (pair : ∀ first second, motive first → motive second → motive (.pair first second))
    (set : ∀ members, motive (.set members))
    (map : ∀ origin branches, (∀ branch ∈ branches, motive branch.2) →
      motive (.map origin branches))
    (shelved : ∀ origin, motive (.shelved origin)) (tree : Tree) : motive tree :=
  @Tree.rec motive (fun items => ∀ item ∈ items, motive item)
    (fun branches => ∀ branch ∈ branches, motive branch.2) (fun branch => motive branch.2)
    scalar list pair set map shelved
    (List.forall_mem_nil _) (fun _ _ first others => List.forall_mem_cons.mpr ⟨first, others⟩)
    (List.forall_mem_nil _) (fun _ _ first others => List.forall_mem_cons.mpr ⟨first, others⟩)
    (fun _ _ known => known) tree

/-- Items are read one by one. -/
theorem itemsWith_eq_map (shelved : Origin → Value) (items : List Tree) :
    itemsWith shelved items = items.map (Tree.valueWith shelved) := by
  induction items with
  | nil => rfl
  | cons item rest ih => simp [itemsWith, ih]

/-- Entries are read one by one. -/
theorem branchesWith_eq_map (shelved : Origin → Value) (branches : Branches) :
    branchesWith shelved branches =
      branches.map fun branch => (branch.1, branch.2.valueWith shelved) := by
  induction branches with
  | nil => rfl
  | cons branch rest ih => simp [branchesWith, ih]

/-- The value of a tree follows from what stands for the origins that it names. -/
theorem valueWith_congr {shelved other : Origin → Value} (tree : Tree)
    (same : ∀ origin ∈ tree.names, shelved origin = other origin) :
    tree.valueWith shelved = tree.valueWith other := by
  induction tree using Tree.induct with
  | scalar _ => rfl
  | set _ => rfl
  | shelved origin => exact same origin (by simp [Tree.names])
  | list items ih =>
    simp only [Tree.valueWith, itemsWith_eq_map]
    congr 1
    refine List.map_congr_left fun item member => ih item member fun origin named => ?_
    exact same origin (mem_itemNames.mpr ⟨item, member, named⟩)
  | pair first second firstSame secondSame =>
    simp only [Tree.names, List.forall_mem_append] at same
    simp only [Tree.valueWith, firstSame same.1, secondSame same.2]
  | map owner branches ih =>
    simp only [Tree.valueWith, branchesWith_eq_map]
    congr 1
    refine List.map_congr_left fun branch member => ?_
    rw [ih branch member fun origin named =>
      same origin (mem_branchNames.mpr ⟨branch, member, named⟩)]

namespace Origin

/-- Whether an origin is that of something read in a load from one of some sources. -/
def IsOf (moment : Nat) (sources : List Nat) (origin : Origin) : Prop :=
  ∃ source ∈ sources, ∃ number, origin = .read moment source number

/-- What was read is told apart by its moment, its source and its number. -/
theorem eq_of_beq_read {origin : Origin} {moment source number : Nat}
    (same : (origin == .read moment source number) = true) :
    origin = .read moment source number := by
  cases origin with
  | read moment' source' number' =>
    simp only [BEq.beq, instBEqOrigin.beq, Bool.and_eq_true, decide_eq_true_eq] at same
    simp [same]
  | alone => simp [BEq.beq, instBEqOrigin.beq] at same
  | made _ _ => simp [BEq.beq, instBEqOrigin.beq] at same

/-- What was read is itself. -/
theorem read_beq_self (moment source number : Nat) :
    (Origin.read moment source number == .read moment source number) = true := by
  simp [BEq.beq, instBEqOrigin.beq]

variable {moment : Nat} {sources others : List Nat} {origin other : Origin}

/-- What counts as the same as something that was read is the same. -/
theorem IsOf.eq_of_beq (isOf : origin.IsOf moment sources) (same : (other == origin) = true) :
    other = origin := by
  obtain ⟨source, _, number, rfl⟩ := isOf
  exact eq_of_beq_read same

/-- What was read from a source is itself. -/
theorem IsOf.beq_self (isOf : origin.IsOf moment sources) : (origin == origin) = true := by
  obtain ⟨source, _, number, rfl⟩ := isOf
  exact read_beq_self moment source number

/-- What was read from a source was read from one of more. -/
theorem IsOf.mono (isOf : origin.IsOf moment sources) (all : ∀ source ∈ sources, source ∈ others) :
    origin.IsOf moment others := by
  obtain ⟨source, member, number, rfl⟩ := isOf
  exact ⟨source, all source member, number, rfl⟩

/-- What was read from different sources is different. -/
theorem IsOf.apart (isOf : origin.IsOf moment sources) (isOther : other.IsOf moment others)
    (disjoint : ∀ source ∈ sources, source ∉ others) : (other == origin) = false := by
  rw [Bool.eq_false_iff]
  intro same
  obtain rfl := isOf.eq_of_beq same
  obtain ⟨source, member, number, rfl⟩ := isOf
  obtain ⟨source', member', number', alike⟩ := isOther
  injection alike with _ sameSource
  exact disjoint source member (sameSource ▸ member')

end Origin

namespace Shelf

/-- What of a shelf is not around. -/
def apartFrom (shelf : Shelf) (around : List Origin) : Shelf :=
  shelf.filter fun entry => !around.contains entry.1

/-- Two shelves have the same under the origins of some sources, and nothing there names others. -/
structure Agree (moment : Nat) (sources : List Nat) (shelf other : Shelf) : Prop where
  same : ∀ origin, origin.IsOf moment sources →
    Entries.get? origin shelf = Entries.get? origin other
  closed : ∀ origin tree, origin.IsOf moment sources → Entries.get? origin shelf = some tree →
    ∀ named ∈ tree.names, named.IsOf moment sources

variable {moment : Nat} {sources : List Nat} {shelf other : Shelf} {origin : Origin}

/-- Going into something on the shelf leaves less of the shelf. -/
theorem length_apartFrom_cons_lt {tree : Tree} {around : List Origin}
    (isOf : origin.IsOf moment sources) (found : Entries.get? origin shelf = some tree)
    (outside : around.contains origin = false) :
    (shelf.apartFrom (origin :: around)).length < (shelf.apartFrom around).length := by
  obtain ⟨key, member, same⟩ := Entries.exists_mem_of_get? found
  obtain rfl := isOf.eq_of_beq same
  have split : shelf.apartFrom (key :: around) =
      (shelf.apartFrom around).filter fun entry => !(entry.1 == key) := by
    simp [apartFrom, List.filter_filter]
  rw [split, List.length_filter_lt_length_iff_exists]
  refine ⟨(key, tree), ?_, by simp [isOf.beq_self]⟩
  simpa [apartFrom, member] using outside

namespace Agree

/-- Agreement goes both ways. -/
theorem symm (agree : Agree moment sources shelf other) : Agree moment sources other shelf where
  same origin isOf := (agree.same origin isOf).symm
  closed origin tree isOf found := agree.closed origin tree isOf (agree.same origin isOf ▸ found)

variable {tree : Tree} (agree : Agree moment sources shelf other)
include agree

/-- Shelves that agree have the same under an origin. -/
theorem take_eq (isOf : origin.IsOf moment sources) : shelf.take origin = other.take origin := by
  rw [take, take, agree.same origin isOf]

/-- What is taken from a shelf names only what it agrees on. -/
theorem take_names (isOf : origin.IsOf moment sources) :
    ∀ named ∈ (shelf.take origin).names, named.IsOf moment sources := by
  intro named isNamed
  cases found : Entries.get? origin shelf with
  | none => simp [take, found, Tree.names, itemNames] at isNamed
  | some tree =>
    exact agree.closed origin tree isOf found named (by simpa [take, found] using isNamed)

/-- Shelves that agree show the same of a tree. -/
theorem opened_eq (known : ∀ named ∈ tree.names, named.IsOf moment sources) :
    tree.opened shelf = tree.opened other := by
  cases tree with
  | shelved origin => exact agree.take_eq (known origin (by simp [Tree.names]))
  | _ => rfl

/-- What is shown of a tree names only what the shelves agree on. -/
theorem opened_names (known : ∀ named ∈ tree.names, named.IsOf moment sources) :
    ∀ named ∈ (tree.opened shelf).names, named.IsOf moment sources := by
  cases tree with
  | shelved origin => exact agree.take_names (known origin (by simp [Tree.names]))
  | _ => exact known

/-- A tree is of one kind with shelves that agree. -/
theorem kind_eq (known : ∀ named ∈ tree.names, named.IsOf moment sources) :
    tree.kind shelf = tree.kind other := by
  rw [Tree.kind, Tree.kind, agree.opened_eq known]

/-- A tree is one map with shelves that agree. -/
theorem map?_eq (known : ∀ named ∈ tree.names, named.IsOf moment sources) :
    tree.map? shelf = tree.map? other := by
  rw [Tree.map?, Tree.map?, agree.opened_eq known]

/-- The entries of a map name only what the shelves agree on. -/
theorem map?_names (known : ∀ named ∈ tree.names, named.IsOf moment sources) {owner : Origin}
    {branches : Branches} (isMap : tree.map? shelf = some (owner, branches)) :
    ∀ named ∈ branchNames branches, named.IsOf moment sources := by
  have opened := agree.opened_names known
  unfold Tree.map? at isMap
  split at isMap
  next found here =>
    rw [here] at opened
    obtain ⟨rfl, rfl⟩ : _ = owner ∧ _ = branches := by simpa using isMap
    exact opened
  next => contradiction

/-- Whether a tree speaks of a path is the same with shelves that agree. -/
theorem speaksOf_eq (path : List Scalar) (known : ∀ named ∈ tree.names, named.IsOf moment sources) :
    tree.speaksOf shelf path = tree.speaksOf other path := by
  induction path generalizing tree with
  | nil => simp [Tree.speaksOf]
  | cons key rest ih =>
    unfold Tree.speaksOf
    rw [← agree.map?_eq known]
    cases isMap : tree.map? shelf with
    | none => rfl
    | some found =>
      obtain ⟨owner, branches⟩ := found
      cases here : Entries.get? key branches with
      | none => simp [here]
      | some below =>
        have inside : ∀ named ∈ below.names, named.IsOf moment sources := fun named isNamed =>
          agree.map?_names known isMap named (mem_branchNames_of_get? here isNamed)
        simpa [here] using ih inside

/-- A tree that is a map on one shelf speaks as this map does on the other. -/
theorem speaksOf_of_map (known : ∀ named ∈ tree.names, named.IsOf moment sources) {owner : Origin}
    {branches : Branches} (isMap : tree.map? shelf = some (owner, branches)) (key : Scalar)
    (rest : List Scalar) :
    tree.speaksOf shelf (key :: rest) = (Tree.map owner branches).speaksOf other (key :: rest) := by
  have isMapThere : tree.map? other = some (owner, branches) := by rw [← agree.map?_eq known, isMap]
  rw [agree.speaksOf_eq _ known, Tree.speaksOf_cons_of_map isMapThere,
    Tree.speaksOf_cons_of_map (Tree.map?_map ..)]

/-- What a path leads to is the same with shelves that agree, and it names only what they agree on.
-/
theorem at?_eq (path : List Scalar) (known : ∀ named ∈ tree.names, named.IsOf moment sources) :
    tree.at? shelf path = tree.at? other path ∧
      ∀ found, tree.at? shelf path = some found →
        ∀ named ∈ found.names, named.IsOf moment sources := by
  induction path generalizing tree with
  | nil =>
    refine ⟨by simp [Tree.at?], ?_⟩
    rintro found here
    obtain rfl : tree = found := by simpa [Tree.at?] using here
    exact known
  | cons key rest ih =>
    unfold Tree.at?
    rw [← agree.map?_eq known]
    cases isMap : tree.map? shelf with
    | none => simp
    | some found =>
      obtain ⟨owner, branches⟩ := found
      cases here : Entries.get? key branches with
      | none => simp [here]
      | some below =>
        have inside : ∀ named ∈ below.names, named.IsOf moment sources := fun named isNamed =>
          agree.map?_names known isMap named (mem_branchNames_of_get? here isNamed)
        simpa [here] using ih inside

/-- What stands under an origin has one value, given fuel for all of the shelf that is not
around. -/
theorem value_eq {fuel extra : Nat} {around : List Origin} (isOf : origin.IsOf moment sources)
    (enough : (shelf.apartFrom around).length < fuel)
    (alsoEnough : (other.apartFrom around).length < extra) :
    shelf.value fuel around origin = other.value extra around origin := by
  induction fuel generalizing extra around origin with
  | zero => omega
  | succ fuel ih =>
    obtain ⟨extra, rfl⟩ : ∃ less, extra = less + 1 := ⟨extra - 1, by omega⟩
    have known := agree.take_names isOf
    simp only [value, ← agree.take_eq isOf, agree.kind_eq known]
    cases outside : around.contains origin with
    | true => rfl
    | false =>
      simp only [Bool.false_eq_true, if_false]
      refine valueWith_congr _ fun named isNamed => ?_
      cases found : Entries.get? origin shelf with
      | none => simp [take, found, Tree.names, itemNames] at isNamed
      | some tree =>
        have less := length_apartFrom_cons_lt isOf found outside
        have alsoLess := length_apartFrom_cons_lt isOf (agree.same origin isOf ▸ found) outside
        exact ih (known named isNamed) (by omega) (by omega)

/-- The value of a tree is the same with shelves that agree. -/
theorem treeValue_eq (known : ∀ named ∈ tree.names, named.IsOf moment sources) :
    tree.value shelf = tree.value other := by
  refine valueWith_congr tree fun named isNamed => agree.value_eq (known named isNamed) ?_ ?_
  · exact Nat.lt_succ_of_le (List.length_filter_le ..)
  · exact Nat.lt_succ_of_le (List.length_filter_le ..)

/-- What is held at a path is the same with shelves that agree. -/
theorem holding_eq (path : List Scalar) (known : ∀ named ∈ tree.names, named.IsOf moment sources) :
    tree.holding shelf path = tree.holding other path := by
  obtain ⟨same, inside⟩ := agree.at?_eq path known
  unfold Tree.holding
  rw [← same]
  cases here : tree.at? shelf path with
  | none => rfl
  | some found => simp [agree.kind_eq (inside found here), agree.treeValue_eq (inside found here)]

end Agree

end Shelf

namespace Graph

/-- A graph names, and has on its shelf, only what was read from some sources in a load. -/
structure Within (moment : Nat) (sources : List Nat) (graph : Graph) : Prop where
  root : ∀ named ∈ graph.root.names, named.IsOf moment sources
  keys : ∀ entry ∈ graph.shelf, entry.1.IsOf moment sources
  shelf : ∀ entry ∈ graph.shelf, ∀ named ∈ entry.2.names, named.IsOf moment sources

namespace Within

variable {moment : Nat} {sources others : List Nat} {graph lower : Graph}

/-- What was read from some sources was read from more. -/
theorem mono (within : graph.Within moment sources) (all : ∀ source ∈ sources, source ∈ others) :
    graph.Within moment others where
  root named isNamed := (within.root named isNamed).mono all
  keys entry member := (within.keys entry member).mono all
  shelf entry member named isNamed := (within.shelf entry member named isNamed).mono all

/-- What stands on the shelf of a graph names only what was read from its sources. -/
theorem closed (within : graph.Within moment sources) (origin : Origin) (tree : Tree)
    (found : Entries.get? origin graph.shelf = some tree) :
    ∀ named ∈ tree.names, named.IsOf moment sources := by
  obtain ⟨key, member, _⟩ := Entries.exists_mem_of_get? found
  exact within.shelf (key, tree) member

/-- A tree that names nothing needs no shelf. -/
theorem of_lone {tree : Tree} (names : tree.names = []) :
    Graph.Within moment sources { root := tree } where
  root := by simp [names]
  keys := by simp
  shelf := by simp

/-- The shelf of a graph agrees with itself on what it names. -/
theorem agree_self (within : graph.Within moment sources) :
    Shelf.Agree moment sources graph.shelf graph.shelf where
  same _ _ := rfl
  closed origin tree _ found := within.closed origin tree found

/-- On the shelves of two graphs that were read from different sources, the upper one first, each
finds what it has itself. -/
theorem agree_upper (within : graph.Within moment sources) (below : lower.Within moment others)
    (disjoint : ∀ source ∈ sources, source ∉ others) :
    Shelf.Agree moment sources graph.shelf (graph.shelf ++ lower.shelf) where
  same origin isOf := by
    have absent : Entries.get? origin lower.shelf = none :=
      Entries.get?_eq_none fun entry member => isOf.apart (below.keys entry member) disjoint
    simp [Entries.get?_append, absent]
  closed origin tree _ found := within.closed origin tree found

/-- A shelf put on top of another changes nothing for what is named below. -/
theorem agree_lower (within : graph.Within moment sources) (below : lower.Within moment others)
    (disjoint : ∀ source ∈ sources, source ∉ others) :
    Shelf.Agree moment others lower.shelf (graph.shelf ++ lower.shelf) where
  same origin isOf := by
    have absent : Entries.get? origin graph.shelf = none :=
      Entries.get?_eq_none fun entry member =>
        isOf.apart (within.keys entry member) fun source inOthers inSources =>
          disjoint source inSources inOthers
    simp [Entries.get?_append, absent]
  closed origin tree _ found := below.closed origin tree found

end Within

end Graph

end Switchboard
