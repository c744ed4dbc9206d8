import Switchboard.Proofs.Settings.Following
import Switchboard.Proofs.Settings.Layering

/-!
# What the built-in settings share

The settings in force may share maps with the built-in ones, and a write into such a map changes
both. What is shared was made when the store was, or was written into something shared; it never
came out of a file. So whatever is loaded and written, the built-in settings name nothing on a
shelf: they are nested maps and nothing else (`Reachable.plain`).
-/

namespace Switchboard

namespace Shelf

/-- The maps in what stands on a shelf. -/
def maps (shelf : Shelf) : List (Origin × Branches) := shelf.flatMap fun entry => entry.2.maps

/-- A map on a shelf is in something that stands there. -/
theorem mem_maps {shelf : Shelf} {found : Origin × Branches} :
    found ∈ shelf.maps ↔ ∃ entry ∈ shelf, found ∈ entry.2.maps := List.mem_flatMap

/-- What is in a map of a shelf is on the shelf. -/
theorem maps_trans {shelf : Shelf} {found inner : Origin × Branches} (member : found ∈ shelf.maps)
    (inside : inner ∈ branchMaps found.2) : inner ∈ shelf.maps := by
  obtain ⟨entry, among, inEntry⟩ := mem_maps.mp member
  exact mem_maps.mpr ⟨entry, among, Switchboard.maps_trans inEntry inside⟩

/-- The maps of an edited shelf are those it had, edited. -/
theorem maps_amend {edit : Settings.Edit} {shelf : Shelf} {found : Origin × Branches}
    (member : found ∈ (shelf.amend edit).maps) : Amended edit shelf.maps found := by
  obtain ⟨_, among, inEntry⟩ := mem_maps.mp member
  obtain ⟨entry, isEntry, rfl⟩ := List.mem_map.mp among
  exact (Switchboard.maps_amend inEntry).mono fun known inside =>
    mem_maps.mpr ⟨entry, isEntry, inside⟩

/-- A shelf without the map that is written into stays what it is. -/
theorem amend_of_absent {edit : Settings.Edit} {shelf : Shelf}
    (absent : ∀ found ∈ shelf.maps, (found.1 == edit.target) = false) : shelf.amend edit = shelf := by
  have same : ∀ entry ∈ shelf, (entry.1, entry.2.amend edit) = entry := by
    intro entry among
    rw [Switchboard.amend_of_absent fun found inEntry =>
      absent found (mem_maps.mpr ⟨entry, among, inEntry⟩)]
  rw [amend, List.map_congr_left same, List.map_id']

end Shelf

/-- A map that a tree is stands in the tree or on the shelf. -/
theorem mem_maps_of_map? {shelf : Shelf} {tree : Tree} {found : Origin × Branches}
    (isMap : tree.map? shelf = some found) : found ∈ tree.maps ∨ found ∈ shelf.maps := by
  unfold Tree.map? at isMap
  split at isMap
  next owner branches opened =>
    obtain rfl : (owner, branches) = found := by simpa using isMap
    cases tree with
    | map _ _ =>
      obtain ⟨rfl, rfl⟩ : _ = owner ∧ _ = branches := by simpa [Tree.opened] using opened
      exact .inl List.mem_cons_self
    | shelved origin =>
      refine .inr (Shelf.mem_maps.mpr ?_)
      cases known : Entries.get? origin shelf with
      | none => simp [Tree.opened, Shelf.take, known] at opened
      | some taken =>
        obtain ⟨key, among, _⟩ := Entries.exists_mem_of_get? known
        obtain rfl : taken = .map owner branches := by
          simpa [Tree.opened, Shelf.take, known] using opened
        exact ⟨(key, .map owner branches), among, List.mem_cons_self⟩
    | _ => simp [Tree.opened] at opened
  next => contradiction

/-- So do the maps in it. -/
theorem mem_maps_of_inside {shelf : Shelf} {tree : Tree} {found inner : Origin × Branches}
    (isMap : tree.map? shelf = some found) (inside : inner ∈ branchMaps found.2) :
    inner ∈ tree.maps ∨ inner ∈ shelf.maps :=
  (mem_maps_of_map? isMap).imp (maps_trans · inside) (Shelf.maps_trans · inside)

/-- What stands at the end of a path has maps of the tree, or of the shelf. -/
theorem Tree.maps_of_at? {shelf : Shelf} {tree below : Tree} {path : List Scalar}
    (here : tree.at? shelf path = some below) {found : Origin × Branches}
    (member : found ∈ below.maps) : found ∈ tree.maps ∨ found ∈ shelf.maps := by
  induction path generalizing tree with
  | nil =>
    obtain rfl : tree = below := by simpa [Tree.at?] using here
    exact .inl member
  | cons key rest ih =>
    simp only [at?_cons, Option.bind_eq_some_iff] at here
    obtain ⟨owner, isMap, inner, under, here⟩ := here
    rcases ih here with inInner | onShelf
    · exact mem_maps_of_inside isMap (mem_branchMaps_of_get? under inInner)
    · exact .inr onShelf

/-- A map that a path leads to stands in the tree or on the shelf. -/
theorem Tree.mem_maps_of_mapAt? {shelf : Shelf} {tree : Tree} {path : List Scalar}
    {found : Origin × Branches} (here : tree.mapAt? shelf path = some found) :
    found ∈ tree.maps ∨ found ∈ shelf.maps := by
  obtain ⟨below, isAt, isMap⟩ := Option.bind_eq_some_iff.mp here
  rcases mem_maps_of_map? isMap with inBelow | onShelf
  · exact maps_of_at? isAt inBelow
  · exact .inr onShelf

/-- A map that a path leads to from a map stands below it or on the shelf. -/
theorem mem_branchMaps_of_mapAt? {shelf : Shelf} {origin : Origin} {branches : Branches}
    {path : List Scalar} (leads : path ≠ []) {found : Origin × Branches}
    (here : (Tree.map origin branches).mapAt? shelf path = some found) :
    found ∈ branchMaps branches ∨ found ∈ shelf.maps := by
  obtain ⟨key, rest, rfl⟩ := List.exists_cons_of_ne_nil leads
  simp only [Tree.mapAt?_cons, Tree.map?_map, Option.bind_some, Option.bind_eq_some_iff] at here
  obtain ⟨inner, under, here⟩ := here
  exact (Tree.mem_maps_of_mapAt? here).imp_left (mem_branchMaps_of_get? under)

namespace Origin

/-- Whether an origin is that of a map that was made in one of some moments. -/
def IsMadeIn (moments : Nat → Prop) : Origin → Prop
  | .made moment _ => moments moment
  | .alone | .read _ _ _ => False

/-- Whether an origin is not that of a map made after a moment. -/
def IsBy (moment : Nat) : Origin → Prop
  | .made known _ => known ≤ moment
  | .alone | .read _ _ _ => True

variable {moments : Nat → Prop} {moment later : Nat} {origin other : Origin}

/-- Origins that count as the same were made in the same moments. -/
theorem IsMadeIn.congr (same : (origin == other) = true) :
    origin.IsMadeIn moments ↔ other.IsMadeIn moments := by
  cases origin <;> cases other <;>
    simp_all [BEq.beq, instBEqOrigin.beq, IsMadeIn]

/-- What is made in some moments is not what is made in none of them. -/
theorem IsMadeIn.beq_eq_false (made : origin.IsMadeIn moments) (apart : ¬other.IsMadeIn moments) :
    (origin == other) = false := by
  rw [Bool.eq_false_iff]
  exact fun same => apart ((IsMadeIn.congr same).mp made)

/-- What was made in some moments is not what was not. -/
theorem IsMadeIn.beq_eq_false_right (made : other.IsMadeIn moments)
    (apart : ¬origin.IsMadeIn moments) : (origin == other) = false := by
  rw [Bool.eq_false_iff]
  exact fun same => apart ((IsMadeIn.congr same).mpr made)

/-- What was made in some moments was made in one of more. -/
theorem IsMadeIn.mono {others : Nat → Prop} (known : origin.IsMadeIn moments)
    (all : ∀ time, moments time → others time) : origin.IsMadeIn others := by
  cases origin with
  | made time _ => exact all time known
  | _ => exact known

/-- Some moments and one more. -/
def alsoAt (moments : Nat → Prop) (moment time : Nat) : Prop := moments time ∨ time = moment

/-- What was made in some moments was made in these and one more. -/
theorem IsMadeIn.widen (known : origin.IsMadeIn moments) :
    origin.IsMadeIn (alsoAt moments moment) :=
  known.mono fun _ => .inl

/-- What is older than the moment that is added was made in one of the others. -/
theorem IsMadeIn.narrow (known : origin.IsMadeIn (alsoAt moments later)) (age : origin.IsBy moment)
    (before : moment < later) : origin.IsMadeIn moments := by
  cases origin with
  | made time _ => exact known.resolve_right (Nat.ne_of_lt (Nat.lt_of_le_of_lt age before))
  | _ => exact known

/-- What was made in the added moment was made in one of all. -/
theorem isMadeIn_alsoAt (isMade : ∃ path, origin = .made moment path) :
    origin.IsMadeIn (alsoAt moments moment) := by
  obtain ⟨path, rfl⟩ := isMade
  exact .inr rfl

/-- What was made by a moment was made by any later one. -/
theorem IsBy.mono (known : origin.IsBy moment) (le : moment ≤ later) : origin.IsBy later := by
  cases origin with
  | made earlier _ => exact Nat.le_trans known le
  | _ => trivial

end Origin

namespace Settings

/-- A map as it may stand in the settings in force, where `kept` are the moments in which what is
shared with the built-in settings was made: if it is shared itself, then so is all that it holds. -/
structure Fits (kept : Nat → Prop) (moment : Nat) (found : Origin × Branches) : Prop where
  age : found.1.IsBy moment
  plain : found.1.IsMadeIn kept → branchNames found.2 = []
  closed : found.1.IsMadeIn kept → ∀ inner ∈ branchMaps found.2, inner.1.IsMadeIn kept

namespace Fits

variable {kept : Nat → Prop} {moment later : Nat} {found : Origin × Branches}

/-- What fits at a moment fits later on. -/
theorem mono (fits : Fits kept moment found) (le : moment ≤ later) : Fits kept later found :=
  { fits with age := fits.age.mono le }

/-- A map that is not shared fits. -/
theorem of_apart (age : found.1.IsBy moment) (apart : ¬found.1.IsMadeIn kept) :
    Fits kept moment found :=
  ⟨age, fun shared => absurd shared apart, fun shared => absurd shared apart⟩

/-- What is new in a moment in which nothing shared was made fits. -/
theorem of_isNew (isNew : found.1.IsNew moment) (fresh : ¬kept moment) :
    Fits kept moment found := by
  obtain ⟨origin, branches⟩ := found
  cases origin with
  | made known _ =>
    obtain rfl : known = moment := isNew
    exact of_apart (Nat.le_refl known) fresh
  | _ => exact of_apart trivial id

/-- What fits goes on to fit when something new comes to be shared. -/
theorem widen (fits : Fits kept moment found) (before : moment < later) :
    Fits (Origin.alsoAt kept later) later found where
  age := fits.age.mono (Nat.le_of_lt before)
  plain shared := fits.plain (shared.narrow fits.age before)
  closed shared inner inside := (fits.closed (shared.narrow fits.age before) inner inside).widen

/-- A map fits after a write into the maps in it, if what is written is shared. -/
theorem amend {origin : Origin} {branches : Branches} {edit : Edit}
    (fits : Fits kept moment (origin, branches)) (plain : branchNames edit.branches = [])
    (shared : ∀ inner ∈ branchMaps edit.branches, inner.1.IsMadeIn kept) :
    Fits kept moment (origin, amendBranches edit branches) where
  age := fits.age
  plain own := List.eq_nil_iff_forall_not_mem.mpr fun named isNamed => by
    rcases branchNames_amend isNamed with old | written
    · simp [fits.plain own] at old
    · simp [plain] at written
  closed own inner inside := by
    rcases (branchMaps_amend inside).old_or_written with ⟨old, member, same⟩ | written
    · exact same ▸ fits.closed own old member
    · exact shared inner written

end Fits

section Planting

variable {kept : Nat → Prop} {before moment : Nat} {item : Value} {key : Scalar}
  {front rest : List Scalar}

section Shared

variable {target : Origin} {below : Branches} (fits : Fits kept before (target, below))
  (shared : target.IsMadeIn kept)
include fits shared

/-- A shared map names nothing, and neither does what is planted into it. -/
theorem branchNames_plant_of_shared :
    branchNames (plant moment item front key rest below) = [] := by
  refine List.eq_nil_iff_forall_not_mem.mpr fun named isNamed => ?_
  simpa [fits.plain shared] using branchNames_plant isNamed

/-- What is planted in a shared map is made of what was shared and of what is new. -/
theorem branchMaps_plant_of_shared :
    ∀ found ∈ branchMaps (plant moment item front key rest below),
      found.1.IsMadeIn (Origin.alsoAt kept moment) := by
  intro found member
  rcases branchMaps_plant member with old | ⟨isMade, _⟩
  · exact (fits.closed shared found old).widen
  · exact Origin.isMadeIn_alsoAt isMade

end Shared

/-- What stands in planted branches fits there, be it that they are shared or not. -/
theorem fits_plant {branches : Branches} (later : before < moment)
    (old : ∀ found ∈ branchMaps branches, Fits kept before found) {found : Origin × Branches}
    (member : found ∈ branchMaps (plant moment item front key rest branches)) :
    Fits (Origin.alsoAt kept moment) moment found ∧
      (¬kept moment → Fits kept moment found) := by
  rcases branchMaps_plant member with known | ⟨isMade, plain, inner⟩
  · exact ⟨(old found known).widen later, fun _ => (old found known).mono (Nat.le_of_lt later)⟩
  · obtain ⟨path, isNew⟩ := isMade
    refine ⟨⟨?_, fun _ => plain, fun _ deeper inside => ?_⟩, fun fresh => ?_⟩
    · rw [isNew]
      exact Nat.le_refl moment
    · exact Origin.isMadeIn_alsoAt (inner deeper inside)
    · exact .of_isNew (by rw [isNew]; rfl) fresh

end Planting

namespace Store

/-- The maps of the settings in force, without the one at their top. -/
def maps (store : Store) : List (Origin × Branches) := branchMaps store.current ++ store.shelf.maps

/-- What is in a map of the settings is in the settings. -/
theorem maps_trans {store : Store} {found inner : Origin × Branches} (member : found ∈ store.maps)
    (inside : inner ∈ branchMaps found.2) : inner ∈ store.maps := by
  rcases List.mem_append.mp member with current | shelved
  · exact List.mem_append_left _ (branchMaps_trans current inside)
  · exact List.mem_append_right _ (Shelf.maps_trans shelved inside)

/-- The built-in settings of a store are nested maps, and what the settings in force share with them
shares all that it holds. -/
structure Separated (kept : Nat → Prop) (moment : Nat) (store : Store) : Prop where
  past : ∀ known, kept known → known ≤ moment
  plain : branchNames store.builtin = []
  own : ∀ found ∈ branchMaps store.builtin, found.1.IsMadeIn kept
  fits : ∀ found ∈ store.maps, Fits kept moment found

namespace Separated

variable {kept : Nat → Prop} {moment later : Nat} {store : Store}

/-- A store that is separated at a moment is so later on. -/
theorem mono (separated : Separated kept moment store) (le : moment ≤ later) :
    Separated kept later store where
  past known isKept := Nat.le_trans (separated.past known isKept) le
  plain := separated.plain
  own := separated.own
  fits found member := (separated.fits found member).mono le

/-- Nothing that is shared is made later. -/
theorem not_later (separated : Separated kept moment store) (before : moment < later) :
    ¬kept later := fun known => Nat.not_le_of_lt before (separated.past later known)

/-- A fresh store is separated, as nothing was made yet. -/
theorem fresh (folder : String) : Separated (· = 0) 0 { folder } where
  past _ known := Nat.le_of_eq known
  plain := branchNames_grow ..
  own := branchMaps_grow (Origin.IsMadeIn (· = 0)) (.made 0) (fun _ => rfl) [] Settings.builtin
  fits := by simp [maps, branchMaps, Shelf.maps]

/-- The maps of the built-in settings may stand in the settings in force. -/
theorem fits_builtin (separated : Separated kept moment store) {found : Origin × Branches}
    (member : found ∈ branchMaps store.builtin) : Fits kept moment found where
  age := by
    have made := separated.own found member
    obtain ⟨origin, branches⟩ := found
    cases origin with
    | made known path => exact separated.past known made
    | _ => trivial
  plain _ := List.eq_nil_iff_forall_not_mem.mpr fun named isNamed => by
    simpa [separated.plain] using branchNames_of_maps member isNamed
  closed _ inner inside := separated.own inner (branchMaps_trans member inside)

end Separated

section Loading

variable {kept : Nat → Prop} {moment : Nat} {name : String} {layer : Graph}
  {below above layers : Layers}

/-- The maps of a layer. -/
def graphMaps (graph : Graph) : List (Origin × Branches) := graph.root.maps ++ graph.shelf.maps

/-- What is in the map that a layer is belongs to the layer. -/
theorem mem_graphMaps_of_inside {graph : Graph} {found inner : Origin × Branches}
    (isMap : graph.root.map? graph.shelf = some found) (inside : inner ∈ branchMaps found.2) :
    inner ∈ graphMaps graph :=
  List.mem_append.mpr (mem_maps_of_inside isMap inside)

/-- What is in a map of a layer is in the layer. -/
theorem graphMaps_trans {graph : Graph} {found inner : Origin × Branches}
    (member : found ∈ graphMaps graph) (inside : inner ∈ branchMaps found.2) :
    inner ∈ graphMaps graph := by
  rcases List.mem_append.mp member with inRoot | onShelf
  · exact List.mem_append_left _ (Switchboard.maps_trans inRoot inside)
  · exact List.mem_append_right _ (Shelf.maps_trans onShelf inside)

/-- What stands on the shelf of merged layers stood on one of theirs. -/
theorem mem_shelfMaps_of_addLayer (added : (addLayer moment name layer below).result = .ok above)
    {found : Origin × Branches} (member : found ∈ above.shelf.maps) :
    found ∈ layer.shelf.maps ∨ found ∈ below.shelf.maps := by
  obtain ⟨entry, among, inEntry⟩ := Shelf.mem_maps.mp member
  exact (mem_shelf_of_addLayer added among).imp (Shelf.mem_maps.mpr ⟨entry, ·, inEntry⟩)
    (Shelf.mem_maps.mpr ⟨entry, ·, inEntry⟩)

/-- Merging makes maps that are not shared, and leaves the others. -/
theorem addLayer_fits (fresh : ¬kept moment)
    (layerFits : ∀ found ∈ graphMaps layer, Fits kept moment found)
    (belowFits : ∀ found ∈ graphMaps below.graph, Fits kept moment found)
    (added : (addLayer moment name layer below).result = .ok above) :
    ∀ found ∈ graphMaps above.graph, Fits kept moment found := by
  have shelfFits : ∀ found ∈ above.shelf.maps, Fits kept moment found := fun found member =>
    (mem_shelfMaps_of_addLayer added member).elim
      (fun high => layerFits found (List.mem_append_right _ high))
      (fun low => belowFits found (List.mem_append_right _ low))
  have branchFits : ∀ branch ∈ above.branches, ∀ found ∈ branch.2.maps, Fits kept moment found := by
    refine addLayer_preserves (fun tree => ∀ found ∈ tree.maps, Fits kept moment found)
      ?opens ?closes ?upper ?lower added
    case opens =>
      intro tree origin inner treeFits isMap branch among found inBranch
      have inside : found ∈ branchMaps inner := mem_branchMaps.mpr ⟨branch, among, inBranch⟩
      exact (mem_maps_of_inside isMap inside).elim (treeFits found) (shelfFits found)
    case closes =>
      intro path inner innerFit found member
      rcases List.mem_cons.mp member with rfl | inside
      · exact .of_apart (Nat.le_refl moment) fresh
      · obtain ⟨branch, among, inBranch⟩ := mem_branchMaps.mp inside
        exact innerFit branch among found inBranch
    case upper =>
      intro owner branches isLayer branch among found inBranch
      have inside : found ∈ branchMaps branches := mem_branchMaps.mpr ⟨branch, among, inBranch⟩
      exact layerFits found (mem_graphMaps_of_inside isLayer inside)
    case lower =>
      intro branch among found inBranch
      exact belowFits found (List.mem_append_left _
        (List.mem_cons_of_mem _ (mem_branchMaps.mpr ⟨branch, among, inBranch⟩)))
  intro found member
  rcases List.mem_append.mp member with inRoot | onShelf
  · rcases List.mem_cons.mp inRoot with rfl | inside
    · exact .of_apart trivial id
    · obtain ⟨branch, among, inBranch⟩ := mem_branchMaps.mp inside
      exact branchFits branch among found inBranch
  · exact shelfFits found onShelf

/-- What was read in a moment came into being in it. -/
theorem isNew_of_readFrom {source : Nat} (read : layer.ReadFrom moment source) :
    ∀ found ∈ graphMaps layer, found.1.IsNew moment := by
  intro found member
  rcases List.mem_append.mp member with inRoot | onShelf
  · exact read.maps found inRoot
  · obtain ⟨entry, among, inEntry⟩ := Shelf.mem_maps.mp onShelf
    exact read.shelfMaps entry among found inEntry

/-- It is not shared then. -/
theorem fits_of_readFrom (fresh : ¬kept moment) {source : Nat}
    (read : layer.ReadFrom moment source) : ∀ found ∈ graphMaps layer, Fits kept moment found :=
  fun found member => .of_isNew (isNew_of_readFrom read found member) fresh

variable {store : Store} {before : Nat} {surroundings : Surroundings}

/-- The maps of a load fit, the layers' own as well as those that were merged. -/
theorem Separated.assemble_fits (separated : Separated kept before store) (later : before < moment)
    (assembled : (store.assemble moment surroundings).result = .ok layers) :
    ∀ found ∈ graphMaps layers.graph, Fits kept moment found := by
  have fresh := separated.not_later later
  obtain ⟨base, defaultFile, withDefaults, localFile, withLocal, overrides, first, reads, second,
    third, last⟩ := assemble_eq_ok_iff.mp assembled
  have ofDefaults := fits_of_readFrom fresh (readLayer_readFrom reads.ofDefaults)
  have ofLocal := fits_of_readFrom fresh (readLayer_readFrom reads.ofLocal)
  have ofVariables : (variableLayer moment overrides).ReadFrom moment 2 := .grow ⟨moment, 2⟩ _
  have lowest : ∀ found ∈ graphMaps ({} : Layers).graph, Fits kept moment found := by
    intro found member
    obtain rfl : found = (.alone, []) := by
      simpa [graphMaps, Layers.graph, Tree.maps, branchMaps, Shelf.maps] using member
    exact .of_apart trivial id
  have builtin : ∀ found ∈ graphMaps store.builtinLayer, Fits kept moment found := by
    intro found member
    rcases List.mem_cons.mp (by simpa [graphMaps, builtinLayer, Shelf.maps, Tree.maps] using member)
      with rfl | inside
    · exact .of_apart trivial id
    · exact (separated.fits_builtin inside).mono (Nat.le_of_lt later)
  have baseFits := addLayer_fits fresh builtin lowest first
  have defaultsFit := addLayer_fits fresh ofDefaults baseFits second
  have localFits := addLayer_fits fresh ofLocal defaultsFit third
  exact addLayer_fits fresh (fits_of_readFrom fresh ofVariables) localFits last

/-- A load keeps a store separated. -/
theorem Separated.load (separated : Separated kept before store) (later : before < moment)
    (surroundings : Surroundings) : Separated kept moment (store.load moment surroundings).1 := by
  cases assembled : (store.assemble moment surroundings).result with
  | error fault =>
    rw [load_of_error assembled]
    exact separated.mono (Nat.le_of_lt later)
  | ok layers =>
    rw [load_of_ok assembled]
    refine { separated.mono (Nat.le_of_lt later) with fits := fun found member => ?_ }
    refine separated.assemble_fits later assembled found ?_
    rcases List.mem_append.mp member with inside | onShelf
    · exact List.mem_append_left _ (List.mem_cons_of_mem _ inside)
    · exact List.mem_append_right _ onShelf

end Loading

section Writing

variable {store : Store} {moment : Nat} {item : Value}

/-- A map that a path leads to in the settings in force is one of theirs. -/
theorem mem_maps_of_mapAt? {path : List Scalar} (leads : path ≠ []) {found : Origin × Branches}
    (here : store.settings.root.mapAt? store.shelf path = some found) : found ∈ store.maps :=
  List.mem_append.mpr (mem_branchMaps_of_mapAt? leads here)

/-- The maps of an edited store are those it had, edited. -/
theorem maps_amend {edit : Edit} {found : Origin × Branches}
    (member : found ∈ (store.amend edit).maps) : Amended edit store.maps found := by
  rcases List.mem_append.mp member with current | shelved
  · exact (branchMaps_amend current).mono fun _ => List.mem_append_left _
  · exact (Shelf.maps_amend shelved).mono fun _ => List.mem_append_right _

variable {kept : Nat → Prop} {before : Nat} {key : Scalar} {front rest : List Scalar}
  {target : Origin} {below : Branches}

namespace Separated

variable (separated : Separated kept before store) (later : before < moment)
include separated later

/-- To plant at the top of the settings keeps a store separated. -/
theorem plantTop : Separated kept moment
    { store with current := plant moment item front key rest store.current } := by
  refine { separated.mono (Nat.le_of_lt later) with fits := fun found member => ?_ }
  rcases List.mem_append.mp member with current | shelved
  · have old : ∀ inner ∈ branchMaps store.current, Fits kept before inner :=
      fun inner inside => separated.fits inner (List.mem_append_left _ inside)
    exact (fits_plant later old current).2 (separated.not_later later)
  · exact (separated.fits found (List.mem_append_right _ shelved)).mono (Nat.le_of_lt later)

/-- A write into a map that is not shared leaves the built-in settings alone. -/
theorem amend_of_apart (known : (target, below) ∈ store.maps) (apart : ¬target.IsMadeIn kept) :
    Separated kept moment (store.amend ⟨target, plant moment item front key rest below⟩) := by
  have untouched (origin : Origin) (shared : origin.IsMadeIn kept) : (origin == target) = false :=
    shared.beq_eq_false apart
  have builtin : amendBranches ⟨target, plant moment item front key rest below⟩ store.builtin =
      store.builtin :=
    amendBranches_of_absent fun found member => untouched found.1 (separated.own found member)
  have after := separated.mono (Nat.le_of_lt later)
  refine ⟨after.past, ?plain, ?own, ?fits⟩
  case plain => simpa only [amend, builtin] using separated.plain
  case own => simpa only [amend, builtin] using separated.own
  case fits =>
    intro found member
    cases maps_amend member with
    | target inside isTarget =>
      exact .of_apart (after.fits _ inside).age
        fun shared => apart ((Origin.IsMadeIn.congr isTarget).mp shared)
    | @kept origin branches inside isOther =>
      have fits := after.fits _ inside
      -- A shared map holds shared maps only, and none of them is written into.
      have same : origin.IsMadeIn kept →
          amendBranches ⟨target, plant moment item front key rest below⟩ branches = branches :=
        fun shared => amendBranches_of_absent fun inner within =>
          untouched inner.1 (fits.closed shared inner within)
      refine ⟨fits.age, fun shared => ?_, fun shared => ?_⟩
      · simpa only [same shared] using fits.plain shared
      · simpa only [same shared] using fits.closed shared
    | written inside =>
      have old : ∀ inner ∈ branchMaps below, Fits kept before inner :=
        fun inner within => separated.fits inner (maps_trans known within)
      exact (fits_plant later old inside).2 (separated.not_later later)

/-- What is written into a shared map is shared from then on. -/
theorem amend_of_shared (known : (target, below) ∈ store.maps) (shared : target.IsMadeIn kept) :
    Separated (Origin.alsoAt kept moment) moment
      (store.amend ⟨target, plant moment item front key rest below⟩) := by
  have targetFits := separated.fits _ known
  have plantedNames : branchNames (plant moment item front key rest below) = [] :=
    branchNames_plant_of_shared targetFits shared
  have plantedMaps : ∀ found ∈ branchMaps (plant moment item front key rest below),
      found.1.IsMadeIn (Origin.alsoAt kept moment) := branchMaps_plant_of_shared targetFits shared
  -- From now on what is made at this moment counts as shared as well.
  refine ⟨?past, ?plain, ?own, ?fits⟩
  case past =>
    rintro time (isKept | rfl)
    · exact (separated.mono (Nat.le_of_lt later)).past time isKept
    · exact Nat.le_refl time
  case plain =>
    refine List.eq_nil_iff_forall_not_mem.mpr fun named isNamed => ?_
    rcases branchNames_amend isNamed with old | written
    · simp [separated.plain] at old
    · simp [plantedNames] at written
  case own =>
    intro found member
    rcases (branchMaps_amend member).old_or_written with ⟨old, inside, same⟩ | written
    · exact same ▸ (separated.own old inside).widen
    · exact plantedMaps found written
  case fits =>
    intro found member
    cases maps_amend member with
    | target inside _ =>
      have age := ((separated.fits _ inside).widen later).age
      exact ⟨age, fun _ => plantedNames, fun _ => plantedMaps⟩
    | kept inside _ => exact ((separated.fits _ inside).widen later).amend plantedNames plantedMaps
    | written inside =>
      have old : ∀ inner ∈ branchMaps below, Fits kept before inner :=
        fun inner within => separated.fits inner (maps_trans known within)
      exact (fits_plant later old inside).1

/-- After a write there are again moments in which all that is shared was made. -/
theorem set (dotted : String) (item : Value) :
    ∃ others, Separated others moment (store.set moment dotted item).1 := by
  obtain ⟨along, last, ending, target, below, -, reached, -, written⟩ :=
    store.set_follows moment dotted item
  rw [written]
  cases along with
  | nil => exact ⟨kept, separated.plantTop later⟩
  | cons key rest =>
    have known : (target, below) ∈ store.maps := mem_maps_of_mapAt? (List.cons_ne_nil _ _) reached
    by_cases shared : target.IsMadeIn kept
    · exact ⟨_, separated.amend_of_shared later known shared⟩
    · exact ⟨kept, separated.amend_of_apart later known shared⟩

end Separated

end Writing

/-- The stores of a folder that loads and writes lead to, each at a moment of its own. -/
inductive Reachable (folder : String) : Nat → Store → Prop
  | fresh : Reachable folder 0 { folder }
  | load {before moment : Nat} {store : Store} (known : Reachable folder before store)
      (later : before < moment) (surroundings : Surroundings) :
      Reachable folder moment (store.load moment surroundings).1
  | set {before moment : Nat} {store : Store} (known : Reachable folder before store)
      (later : before < moment) (dotted : String) (item : Value) :
      Reachable folder moment (store.set moment dotted item).1

/-- Every store that loads and writes lead to is separated. -/
theorem Reachable.separated {folder : String} {moment : Nat} {store : Store}
    (reachable : Reachable folder moment store) : ∃ kept, Separated kept moment store := by
  induction reachable with
  | fresh => exact ⟨_, .fresh folder⟩
  | load _ later surroundings ih =>
    obtain ⟨kept, separated⟩ := ih
    exact ⟨kept, separated.load later surroundings⟩
  | set _ later dotted item ih =>
    obtain ⟨kept, separated⟩ := ih
    exact separated.set later dotted item

/-- Whatever was loaded and written, the built-in settings are nested maps. -/
theorem Reachable.plain {folder : String} {moment : Nat} {store : Store}
    (reachable : Reachable folder moment store) : branchNames store.builtin = [] := by
  obtain ⟨_, separated⟩ := reachable.separated
  exact separated.plain

end Store

end Settings

end Switchboard
