import Switchboard.Proofs.Settings.Reading
import Switchboard.Settings.Store

/-!
# Layers of settings

A load lays the built-in settings, two files and the variables over one another. At every path the
settings in force hold what the highest layer that speaks about the path holds there (`layered`).
So a value in a layer hides whatever lower layers hold below it, even where a higher layer has a map
in its place again.
-/

namespace Switchboard.Settings

/-- What layers hold at a path, the highest one first: what the first one that speaks about the path
holds. -/
def layered (layers : List Graph) (path : List Scalar) : Holding :=
  match layers.find? fun layer => layer.speaksOf path with
  | none => .nothing
  | some layer => layer.holding path

/-- The highest layer speaks if it can, and else the ones below it. -/
theorem layered_cons (layer : Graph) (lower : List Graph) (path : List Scalar) :
    layered (layer :: lower) path =
      if layer.speaksOf path then layer.holding path else layered lower path := by
  cases speaks : layer.speaksOf path <;> simp [layered, List.find?, speaks]

namespace Store

/-- The layers as one graph. -/
def Layers.graph (layers : Layers) : Graph :=
  { root := .map .alone layers.branches, shelf := layers.shelf }

/-- The built-in settings as a layer. -/
def builtinLayer (store : Store) : Graph := { root := .map .alone store.builtin }

/-- What the files and the variables around a store say when it is loaded. -/
structure Reads (store : Store) (moment : Nat) (surroundings : Surroundings)
    (defaultFile localFile : Graph) (overrides : Section) : Prop where
  ofDefaults : (readLayer surroundings.files ⟨moment, 0⟩ (store.filePath "default.yaml")).result =
    .ok defaultFile
  ofLocal : (readLayer surroundings.files ⟨moment, 1⟩ (store.filePath "config.yaml")).result =
    .ok localFile
  ofVariables : (readEnvironment surroundings.environment).result = .ok overrides

/-- The layer of variables. -/
def variableLayer (moment : Nat) (overrides : Section) : Graph :=
  Occasion.grow ⟨moment, 2⟩ (.map overrides)

section Loading

variable {store : Store} {moment : Nat} {surroundings : Surroundings} {name : String}
  {layer : Graph} {below above layers : Layers}

/-- A layer that is added says nothing, or its branches are merged. -/
theorem addLayer_cases (added : (addLayer moment name layer below).result = .ok above) :
    (layer.isTruthy = false ∧ above = below) ∨
    (layer.isTruthy = true ∧ above.shelf = layer.shelf ++ below.shelf ∧
      ∃ owner branches, layer.root.map? layer.shelf = some (owner, branches) ∧
        mergeBranches? above.shelf moment below.branches branches = some above.branches) := by
  unfold addLayer at added
  cases truthy : layer.isTruthy with
  | false => exact .inl ⟨rfl, by simpa [truthy, Traced.ok, eq_comm] using added⟩
  | true =>
    simp only [truthy, if_true, Traced.bind_eq_ok_iff, Traced.result_lift] at added
    obtain ⟨branches, isMap, merged⟩ := added
    cases isLayer : layer.root.map? layer.shelf with
    | none => simp [layerBranches, isLayer] at isMap
    | some found =>
      obtain rfl : found.2 = branches := by
        simpa [layerBranches, isLayer] using isMap
      cases made : mergeBranches? (layer.shelf ++ below.shelf) moment below.branches found.2 with
      | none => simp [made] at merged
      | some branches =>
        obtain rfl : ({ branches, shelf := layer.shelf ++ below.shelf } : Layers) = above := by
          simpa [made, Traced.bind_eq_ok_iff] using merged
        exact .inr ⟨rfl, rfl, found.1, found.2, rfl, made⟩

/-- What stands on the shelf of merged layers stood on one of the two. -/
theorem mem_shelf_of_addLayer (added : (addLayer moment name layer below).result = .ok above)
    {entry : Origin × Tree} (member : entry ∈ above.shelf) :
    entry ∈ layer.shelf ∨ entry ∈ below.shelf := by
  obtain ⟨_, rfl⟩ | ⟨_, shelf, _⟩ := addLayer_cases added
  · exact .inr member
  · exact List.mem_append.mp (shelf ▸ member)

/-- Whatever is closed under opening a map and under making a new one holds of the merged branches
if it holds of the two sides. -/
theorem addLayer_preserves (good : Tree → Prop)
    (opens : ∀ tree owner branches, good tree → tree.map? above.shelf = some (owner, branches) →
      ∀ branch ∈ branches, good branch.2)
    (closes : ∀ path branches, (∀ branch ∈ branches, good branch.2) →
      good (.map (.made moment path) branches))
    (upper : ∀ owner branches, layer.root.map? layer.shelf = some (owner, branches) →
      ∀ branch ∈ branches, good branch.2)
    (lower : ∀ branch ∈ below.branches, good branch.2)
    (added : (addLayer moment name layer below).result = .ok above) :
    ∀ branch ∈ above.branches, good branch.2 := by
  obtain ⟨_, rfl⟩ | ⟨_, _, owner, branches, isLayer, made⟩ := addLayer_cases added
  · exact lower
  · exact mergeBranches?_preserves good opens closes made lower (upper owner branches isLayer)

/-- The shelf of layers holds collections only after one that does was added. -/
theorem addLayer_collections (upper : ∀ entry ∈ layer.shelf, entry.2.isCollection = true)
    (lower : ∀ entry ∈ below.shelf, entry.2.isCollection = true)
    (added : (addLayer moment name layer below).result = .ok above) :
    ∀ entry ∈ above.shelf, entry.2.isCollection = true := by
  intro entry member
  rcases mem_shelf_of_addLayer added member with high | low
  · exact upper entry high
  · exact lower entry low

/-- A layer is added when its branches are merged. -/
theorem addLayer_of_merged {owner : Origin} {branches merged : Branches}
    (truthy : layer.isTruthy = true) (isLayer : layer.root.map? layer.shelf = some (owner, branches))
    (made : mergeBranches? (layer.shelf ++ below.shelf) moment below.branches branches = some merged) :
    (addLayer moment name layer below).result =
      .ok { branches := merged, shelf := layer.shelf ++ below.shelf } := by
  simp [addLayer, truthy, layerBranches, isLayer, made, Traced.bind_eq_ok_iff]

/-- A layer that is a map is added, unless merging it has no end. -/
theorem addLayer_ends (isMap : layer.kind = .map)
    (ends : (addLayer moment name layer below).result ≠ .error .endless) :
    ∃ above, (addLayer moment name layer below).result = .ok above := by
  cases truthy : layer.isTruthy with
  | false => exact ⟨below, by simp [addLayer, truthy, Traced.ok]⟩
  | true =>
    obtain ⟨found, isLayer⟩ := Option.isSome_iff_exists.mp ((Tree.kind_eq_map_iff ..).mp isMap)
    cases made : mergeBranches? (layer.shelf ++ below.shelf) moment below.branches found.2 with
    | none =>
      refine absurd ?_ ends
      simp [addLayer, truthy, layerBranches, isLayer, made, Traced.bind_eq_error_iff]
    | some merged => exact ⟨_, addLayer_of_merged truthy isLayer made⟩

/-- A map that counts as false is silent about every path below it. -/
theorem silent_of_not_truthy (isMap : layer.kind = .map) (falsy : layer.isTruthy = false)
    (key : Scalar) (rest : List Scalar) : layer.speaksOf (key :: rest) = false := by
  obtain ⟨⟨owner, branches⟩, isLayer⟩ :=
    Option.isSome_iff_exists.mp ((Tree.kind_eq_map_iff ..).mp isMap)
  obtain rfl : branches = [] := by
    unfold Tree.map? at isLayer
    unfold Graph.isTruthy Tree.isTruthy at falsy
    split at isLayer
    next opened =>
      rw [opened] at falsy
      obtain ⟨-, rfl⟩ : _ = owner ∧ _ = branches := by simpa using isLayer
      simpa using falsy
    next => contradiction
  rw [Graph.speaksOf, Tree.speaksOf_cons_of_map isLayer]
  rfl

section Added

variable {sources others : List Nat}

/-- A layer that is added decides about the paths that it speaks about, and leaves the others. -/
theorem addLayer_holding (isMap : layer.kind = .map) (within : layer.Within moment sources)
    (withinBelow : below.graph.Within moment others)
    (disjoint : ∀ source ∈ sources, source ∉ others)
    (added : (addLayer moment name layer below).result = .ok above) (key : Scalar)
    (rest : List Scalar) :
    above.graph.holding (key :: rest) =
      if layer.speaksOf (key :: rest) then layer.holding (key :: rest)
      else below.graph.holding (key :: rest) := by
  obtain ⟨falsy, rfl⟩ | ⟨_, shelf, owner, branches, isLayer, made⟩ := addLayer_cases added
  · rw [silent_of_not_truthy isMap falsy]
    rfl
  · -- Both sides mean on the common shelf what they mean on their own ones.
    have upper : Shelf.Agree moment sources layer.shelf above.shelf := by
      rw [shelf]
      exact within.agree_upper withinBelow disjoint
    have lower : Shelf.Agree moment others below.shelf above.shelf := by
      rw [shelf]
      exact within.agree_lower withinBelow disjoint
    have isMapAbove : layer.root.map? above.shelf = some (owner, branches) := by
      rw [← upper.map?_eq within.root, isLayer]
    have speaks := upper.speaksOf_of_map within.root isLayer key rest
    rw [← Graph.speaksOf] at speaks
    have holds : layer.holding (key :: rest) =
        (Tree.map owner branches).holding above.shelf (key :: rest) := by
      rw [Graph.holding_eq, upper.holding_eq _ within.root, Tree.holding_cons_of_map isMapAbove,
        Tree.holding_cons_of_map (Tree.map?_map ..)]
    have holdsBelow : below.graph.holding (key :: rest) =
        (Tree.map .alone below.branches).holding above.shelf (key :: rest) := by
      rw [Graph.holding_eq]
      exact lower.holding_eq _ withinBelow.root
    rw [speaks, holds, holdsBelow, Graph.holding_eq]
    exact holding_mergeBranches made .alone owner .alone key rest

/-- What is merged names only what the two sides were read from. -/
theorem addLayer_within (within : layer.Within moment sources)
    (withinBelow : below.graph.Within moment others)
    (added : (addLayer moment name layer below).result = .ok above) :
    above.graph.Within moment (sources ++ others) := by
  -- Both are seen as read from all of the sources, and the two shelves as one.
  have high := within.mono fun _ => List.mem_append_left others
  have low := withinBelow.mono fun _ => List.mem_append_right sources
  have keys : ∀ entry ∈ above.shelf, entry.1.IsOf moment (sources ++ others) :=
    fun entry member => (mem_shelf_of_addLayer added member).elim (high.keys entry) (low.keys entry)
  have shelf : ∀ entry ∈ above.shelf, ∀ named ∈ entry.2.names,
      named.IsOf moment (sources ++ others) := fun entry member =>
    (mem_shelf_of_addLayer added member).elim (high.shelf entry) (low.shelf entry)
  have agree : Shelf.Agree moment (sources ++ others) above.shelf above.shelf := by
    refine ⟨fun _ _ => rfl, fun origin tree _ found => ?_⟩
    obtain ⟨key, member, _⟩ := Entries.exists_mem_of_get? found
    exact shelf (key, tree) member
  refine ⟨fun named isNamed => ?_, keys, shelf⟩
  obtain ⟨branch, member, inside⟩ := mem_branchNames.mp isNamed
  refine addLayer_preserves
    (fun tree => ∀ named ∈ tree.names, named.IsOf moment (sources ++ others))
    ?opens ?closes ?upper ?lower added branch member named inside
  case opens =>
    intro tree owner found good isMap branch member named isNamed
    exact agree.map?_names good isMap named (mem_branchNames.mpr ⟨branch, member, isNamed⟩)
  case closes =>
    intro path found good named isNamed
    obtain ⟨branch, member, inside⟩ := mem_branchNames.mp isNamed
    exact good branch member named inside
  case upper =>
    intro owner branches isLayer branch member named isNamed
    exact high.agree_self.map?_names high.root isLayer named
      (mem_branchNames.mpr ⟨branch, member, isNamed⟩)
  case lower =>
    intro branch member named isNamed
    exact low.root named (mem_branchNames.mpr ⟨branch, member, isNamed⟩)

end Added

/-- The layers are added one after the other, each once it is read. -/
theorem assemble_eq_ok_iff :
    (store.assemble moment surroundings).result = .ok layers ↔
      ∃ base defaultFile withDefaults localFile withLocal overrides,
        (addLayer moment "defaults" store.builtinLayer {}).result = .ok base ∧
        store.Reads moment surroundings defaultFile localFile overrides ∧
        (addLayer moment "default_config" defaultFile base).result = .ok withDefaults ∧
        (addLayer moment "local_config" localFile withDefaults).result = .ok withLocal ∧
        (addLayer moment "environment" (variableLayer moment overrides) withLocal).result =
          .ok layers := by
  simp only [assemble, Traced.bind_eq_ok_iff]
  constructor
  · rintro ⟨_, _, base, first, defaultFile, ofDefaults, withDefaults, second, localFile, ofLocal,
      withLocal, third, overrides, ofVariables, last⟩
    exact ⟨base, defaultFile, withDefaults, localFile, withLocal, overrides, first,
      ⟨ofDefaults, ofLocal, ofVariables⟩, second, third, last⟩
  · rintro ⟨base, defaultFile, withDefaults, localFile, withLocal, overrides, first, reads, second,
      third, last⟩
    exact ⟨(), rfl, base, first, defaultFile, reads.ofDefaults, withDefaults, second, localFile,
      reads.ofLocal, withLocal, third, overrides, reads.ofVariables, last⟩

/-- What stands on the shelf of merged layers are collections. -/
theorem assemble_collections
    (assembled : (store.assemble moment surroundings).result = .ok layers) :
    ∀ entry ∈ layers.shelf, entry.2.isCollection = true := by
  obtain ⟨base, defaultFile, withDefaults, localFile, withLocal, overrides, first, reads, second,
    third, last⟩ := assemble_eq_ok_iff.mp assembled
  have nothing : ∀ entry ∈ ([] : Shelf), entry.2.isCollection = true := List.forall_mem_nil _
  have ofDefaults := (readLayer_readFrom reads.ofDefaults).collections
  have ofLocal := (readLayer_readFrom reads.ofLocal).collections
  have base := addLayer_collections nothing nothing first
  have withDefaults := addLayer_collections ofDefaults base second
  have withLocal := addLayer_collections ofLocal withDefaults third
  exact addLayer_collections nothing withLocal last

/-- Over nothing, the built-in settings are added as they are. -/
theorem addLayer_builtin : (addLayer moment "defaults" store.builtinLayer {}).result =
    .ok { branches := store.builtin } := by
  have new : newBranches [] store.builtin = store.builtin :=
    List.filter_eq_self.mpr fun _ _ => rfl
  cases builtin : store.builtin with
  | nil =>
    simp [addLayer, builtinLayer, builtin, Graph.isTruthy, Tree.isTruthy, Tree.opened, Traced.ok]
  | cons branch rest =>
    rw [builtin] at new
    simp [addLayer, builtinLayer, builtin, Graph.isTruthy, Tree.isTruthy, Tree.opened,
      layerBranches, mergeBranches?, mergeLower, new, Traced.bind_eq_ok_iff]

/-- Where nothing else says anything, the built-in settings are in force as they are. -/
theorem assemble_of_nothing
    (reads : store.Reads moment surroundings (.ofValue (.map [])) (.ofValue (.map [])) []) :
    (store.assemble moment surroundings).result = .ok { branches := store.builtin } :=
  assemble_eq_ok_iff.mpr ⟨_, _, _, _, _, _, addLayer_builtin, reads, rfl, rfl, rfl⟩

section Assembled

variable {defaultFile localFile : Graph} {overrides : Section}

/-- What a load reads is read in one way. -/
theorem Reads.unique {otherDefault otherLocal : Graph} {otherVariables : Section}
    (reads : store.Reads moment surroundings defaultFile localFile overrides)
    (also : store.Reads moment surroundings otherDefault otherLocal otherVariables) :
    defaultFile = otherDefault ∧ localFile = otherLocal ∧ overrides = otherVariables := by
  refine ⟨?_, ?_, ?_⟩
  · simpa [reads.ofDefaults] using also.ofDefaults
  · simpa [reads.ofLocal] using also.ofLocal
  · simpa [reads.ofVariables] using also.ofVariables

/-- Layers that are maps are merged, unless merging them has no end. -/
theorem assemble_ends (reads : store.Reads moment surroundings defaultFile localFile overrides)
    (defaultMap : defaultFile.kind = .map) (localMap : localFile.kind = .map)
    (ends : (store.assemble moment surroundings).result ≠ .error .endless) :
    ∃ layers, (store.assemble moment surroundings).result = .ok layers := by
  unfold assemble at ends
  obtain ⟨_, afterNote⟩ := Traced.ne_error_of_bind ends
  obtain ⟨builtinEnds, afterBuiltin⟩ := Traced.ne_error_of_bind (afterNote () rfl)
  obtain ⟨base, first⟩ := addLayer_ends rfl builtinEnds
  obtain ⟨_, afterReading⟩ := Traced.ne_error_of_bind (afterBuiltin base first)
  obtain ⟨defaultEnds, afterDefault⟩ :=
    Traced.ne_error_of_bind (afterReading defaultFile reads.ofDefaults)
  obtain ⟨withDefaults, second⟩ := addLayer_ends defaultMap defaultEnds
  obtain ⟨_, afterLocalReading⟩ := Traced.ne_error_of_bind (afterDefault withDefaults second)
  obtain ⟨localEnds, afterLocal⟩ :=
    Traced.ne_error_of_bind (afterLocalReading localFile reads.ofLocal)
  obtain ⟨withLocal, third⟩ := addLayer_ends localMap localEnds
  obtain ⟨_, afterVariables⟩ := Traced.ne_error_of_bind (afterLocal withLocal third)
  obtain ⟨layers, last⟩ := addLayer_ends rfl (afterVariables overrides reads.ofVariables)
  exact ⟨layers, assemble_eq_ok_iff.mpr
    ⟨base, defaultFile, withDefaults, localFile, withLocal, overrides, first, reads, second, third,
      last⟩⟩

/-- A load that fails while it reads or merges changes nothing. -/
theorem load_of_error {fault : Fault}
    (failed : (store.assemble moment surroundings).result = .error fault) :
    (store.load moment surroundings).1 = store := by
  simp only [load, failed]

/-- What is merged is in force after the load, be it refused or not. -/
theorem load_of_ok (assembled : (store.assemble moment surroundings).result = .ok layers) :
    (store.load moment surroundings).1 =
      { store with current := layers.branches, shelf := layers.shelf } := by
  simp only [load, assembled]
  split <;> rfl

/-- Layers that merge are in force after a load. -/
theorem settings_load_of_ok (assembled : (store.assemble moment surroundings).result = .ok layers) :
    (store.load moment surroundings).1.settings = layers.graph := by
  rw [load_of_ok assembled]
  rfl

/-- What a load comes to: its layers are read and merged, and what is merged is checked. -/
theorem load_result : (store.load moment surroundings).2.result =
    (store.assemble moment surroundings).result.bind fun layers => validate layers.graph := by
  unfold load
  cases assembled : (store.assemble moment surroundings).result with
  | error fault => simp [assembled, Except.bind]
  | ok layers =>
    have settings :
        ({ store with current := layers.branches, shelf := layers.shelf } : Store).settings =
          layers.graph := rfl
    simp only [assembled, settings, Except.bind]
    cases checked : validate layers.graph with
    | error fault => rfl
    | ok done => rfl

/-- A load succeeds exactly where the layers merge and pass the check. -/
theorem load_eq_ok_iff : (store.load moment surroundings).2.result = .ok () ↔
    ∃ layers, (store.assemble moment surroundings).result = .ok layers ∧
      validate layers.graph = .ok () := by
  rw [load_result]
  cases (store.assemble moment surroundings).result <;> simp [Except.bind]

/-- The layers of a store, the highest one first. -/
def layersOver (store : Store) (moment : Nat) (defaultFile localFile : Graph)
    (overrides : Section) : List Graph :=
  [variableLayer moment overrides, localFile, defaultFile, store.builtinLayer]

/-- What the merged layers hold at a path is what the highest layer that speaks of it holds. -/
theorem assemble_holding (plain : branchNames store.builtin = [])
    (reads : store.Reads moment surroundings defaultFile localFile overrides)
    (defaultMap : defaultFile.kind = .map) (localMap : localFile.kind = .map)
    (assembled : (store.assemble moment surroundings).result = .ok layers) (key : Scalar)
    (rest : List Scalar) :
    layers.graph.holding (key :: rest) =
      layered (store.layersOver moment defaultFile localFile overrides) (key :: rest) := by
  obtain ⟨base, _, withDefaults, _, withLocal, _, first, also, second, third, last⟩ :=
    assemble_eq_ok_iff.mp assembled
  obtain ⟨rfl, rfl, rfl⟩ := reads.unique also
  have lowest : ({} : Layers).graph.Within moment [] := .of_lone rfl
  have builtin : store.builtinLayer.Within moment [] := .of_lone (by simpa [Tree.names] using plain)
  have ofDefaults : defaultFile.Within moment [0] := (readLayer_readFrom reads.ofDefaults).toWithin
  have ofLocal : localFile.Within moment [1] := (readLayer_readFrom reads.ofLocal).toWithin
  have ofVariables : (variableLayer moment overrides).Within moment [] :=
    .of_lone (Occasion.names_grow ⟨moment, 2⟩ (.map overrides))
  have baseWithin := addLayer_within builtin lowest first
  have defaultsWithin := addLayer_within ofDefaults baseWithin second
  have localWithin := addLayer_within ofLocal defaultsWithin third
  have nothing : ({} : Layers).graph.holding (key :: rest) = layered [] (key :: rest) := rfl
  rw [addLayer_holding rfl ofVariables localWithin (by simp) last,
    addLayer_holding localMap ofLocal defaultsWithin (by simp) third,
    addLayer_holding defaultMap ofDefaults baseWithin (by simp) second,
    addLayer_holding rfl builtin lowest (by simp) first, nothing]
  simp only [layersOver, layered_cons]

/-- At every path the settings in force hold what the highest layer that speaks about the path holds
there, once a load has read its layers and merged them: the variables over the local file over the
file of defaults over the built-in settings. These are nested maps, whatever was written into them
before. A load that has read maps gets through merging them, unless they are nested without end. -/
theorem load_layered (plain : branchNames store.builtin = [])
    (reads : store.Reads moment surroundings defaultFile localFile overrides)
    (defaultMap : defaultFile.kind = .map) (localMap : localFile.kind = .map)
    (ends : (store.assemble moment surroundings).result ≠ .error .endless) (path : List Scalar)
    (below : path ≠ []) :
    (store.load moment surroundings).1.settings.holding path =
      layered (store.layersOver moment defaultFile localFile overrides) path := by
  obtain ⟨layers, assembled⟩ := assemble_ends reads defaultMap localMap ends
  obtain ⟨key, rest, rfl⟩ := List.exists_cons_of_ne_nil below
  have merged : (store.load moment surroundings).1.settings = layers.graph := by
    rw [load_of_ok assembled]
    rfl
  rw [merged]
  exact assemble_holding plain reads defaultMap localMap assembled key rest

end Assembled

end Loading

section UsualFolder

variable {store : Store} (folder : store.folder = "config")
include folder

/-- Where the default file is. -/
theorem plain_filePath_default :
    Path.plain (store.filePath "default.yaml") = "config/default.yaml" := by
  have path : store.filePath "default.yaml" = "config/default.yaml" := by
    rw [filePath, folder]
    decide +kernel
  rw [path]
  decide +kernel

/-- Where the local file is. -/
theorem plain_filePath_local :
    Path.plain (store.filePath "config.yaml") = "config/config.yaml" := by
  have path : store.filePath "config.yaml" = "config/config.yaml" := by
    rw [filePath, folder]
    decide +kernel
  rw [path]
  decide +kernel

/-- Where a look for the default file leads. -/
theorem look_default (files : Files) : files.look (Path.plain (store.filePath "default.yaml")) =
    Path.follow files.isFolder? [] ["config", "default.yaml"] := by
  have parts : Path.parts "config/default.yaml" = ["config", "default.yaml"] := by decide +kernel
  rw [plain_filePath_default folder, ← parts]
  exact files.look_eq_follow (by decide +kernel) (by decide +kernel) (by decide +kernel)

/-- Where a look for the local file leads. -/
theorem look_local (files : Files) : files.look (Path.plain (store.filePath "config.yaml")) =
    Path.follow files.isFolder? [] ["config", "config.yaml"] := by
  have parts : Path.parts "config/config.yaml" = ["config", "config.yaml"] := by decide +kernel
  rw [plain_filePath_local folder, ← parts]
  exact files.look_eq_follow (by decide +kernel) (by decide +kernel) (by decide +kernel)

/-- The layer of a default file that is there. -/
theorem readLayer_default {files : Files} {content : Content} {moment : Nat}
    (sight : Path.follow files.isFolder? [] ["config", "default.yaml"] =
      .file ["config", "default.yaml"])
    (found : Entries.get? ["config", "default.yaml"] files = some content) :
    (readLayer files ⟨moment, 0⟩ (store.filePath "default.yaml")).result =
      readContent .yaml ⟨moment, 0⟩ "config/default.yaml" content := by
  have ending : Format.ofPath? "config/default.yaml" = some .yaml := by decide +kernel
  rw [← plain_filePath_default folder] at ending ⊢
  exact readLayer_of_content ((look_default folder files).trans sight) ending found

/-- The layer of a local file that is there. -/
theorem readLayer_local {files : Files} {content : Content} {moment : Nat}
    (sight : Path.follow files.isFolder? [] ["config", "config.yaml"] =
      .file ["config", "config.yaml"])
    (found : Entries.get? ["config", "config.yaml"] files = some content) :
    (readLayer files ⟨moment, 1⟩ (store.filePath "config.yaml")).result =
      readContent .yaml ⟨moment, 1⟩ "config/config.yaml" content := by
  have ending : Format.ofPath? "config/config.yaml" = some .yaml := by decide +kernel
  rw [← plain_filePath_local folder] at ending ⊢
  exact readLayer_of_content ((look_local folder files).trans sight) ending found

/-- Where there are no files, only the variables say something. -/
theorem Reads.of_no_files (moment : Nat) {environment : Environment} {overrides : Section}
    (ofVariables : (readEnvironment environment).result = .ok overrides) :
    store.Reads moment { environment } (.ofValue (.map [])) (.ofValue (.map [])) overrides where
  ofDefaults := readLayer_of_missing ((look_default folder []).trans (by decide +kernel))
  ofLocal := readLayer_of_missing ((look_local folder []).trans (by decide +kernel))
  ofVariables := ofVariables

end UsualFolder

/-! A value of the file of defaults hides a section, which the local file and a variable reopen. -/

namespace Reopened

/-- A store with one section built in. -/
def store : Store where
  folder := "config"
  builtin := growBranches (.made 0) []
    [(.text "logging", .record [("level", .text "DEBUG"), ("console", .bool true)])]

/-- A default file that hides the built-in section. -/
def defaults : Value := .record [("logging", .bool false), ("app", .record [])]

/-- A local file that opens the section again. -/
def locals : Value := .record [("logging", .record [("file", .text "calls.log")])]

/-- Both files and a variable. -/
def surroundings : Surroundings where
  files :=
    (Files.place [] "config/default.yaml" (.value defaults)).place "config/config.yaml"
      (.value locals)
  environment := [("CALLROUTE_LOG_LEVEL", "ERROR")]

/-- What the variable says. -/
def overrides : Section := [(.text "logging", .record [("level", .text "ERROR")])]

/-- What is read of the files and the variable. -/
theorem reads : store.Reads 3 surroundings (Occasion.grow ⟨3, 0⟩ defaults)
    (Occasion.grow ⟨3, 1⟩ locals) overrides where
  ofDefaults := by
    rw [readLayer_default rfl rfl rfl]
    rfl
  ofLocal := by
    rw [readLayer_local rfl rfl rfl]
    rfl
  ofVariables := by rfl

/-- The layers merge. -/
theorem ends : (store.assemble 3 surroundings).result ≠ .error .endless := by
  have assembled : (store.assemble 3 surroundings).result = .ok _ :=
    assemble_eq_ok_iff.mpr ⟨_, _, _, _, _, _, rfl, reads, rfl, rfl, rfl⟩
  simp [assembled]

/-- What the section held below the value that hides it does not come back. -/
theorem load_layered_reopened :
    let settings := (store.load 3 surroundings).1.settings
    settings.holding [.text "logging"] = .map ∧
      settings.holding [.text "logging", .text "level"] = .content (.text "ERROR") ∧
      settings.holding [.text "logging", .text "file"] = .content (.text "calls.log") ∧
      settings.holding [.text "logging", .text "console"] = .nothing := by
  have holds := load_layered (by rfl) reads (by rfl) (by rfl) ends
  exact ⟨(holds [.text "logging"] (by simp)).trans rfl,
    (holds [.text "logging", .text "level"] (by simp)).trans rfl,
    (holds [.text "logging", .text "file"] (by simp)).trans rfl,
    (holds [.text "logging", .text "console"] (by simp)).trans rfl⟩

end Reopened

end Store

end Switchboard.Settings
