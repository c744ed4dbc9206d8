import Switchboard.Proofs.Settings.Dating
import Switchboard.Proofs.Settings.Overlaying
import Switchboard.Proofs.Settings.Reloading

/-!
# Which writes outlast a load

A write changes the innermost map that its path leads to. Where no outer layer touches that map, it is
a built-in one that is shared (`assemble_mapAt?`): the write then changes the built-in settings as well,
and goes through the next load as if it had been there before the last one (`assemble_amend`). Any
other map came into being with the last load, so the built-in settings do not have it, and the next
load makes it anew.

The next load takes place at another moment. It is held against a load at the moment of the last one by
exchanging the two moments, which changes nothing of what was there before either
(`assemble_again`).
-/

namespace Switchboard

/-- Whether a layer has something at a path, or something other than a map on the way there. -/
def Graph.Touches (graph : Graph) (path : List Scalar) : Prop :=
  graph.holding path ≠ .nothing ∨
    ∃ front value, front ≠ [] ∧ front <+: path ∧ front ≠ path ∧ graph.holding front = .content value

/-- A map touches the paths below it that it speaks about. -/
theorem Graph.touches_iff {graph : Graph} {found : Origin × Branches}
    (isMap : graph.root.map? graph.shelf = some found) (path : List Scalar) :
    graph.Touches path ↔ graph.speaksOf path = true := by
  have top : graph.root.holding graph.shelf [] = .map := Tree.holding_nil_of_map isMap
  rw [Graph.speaksOf, Tree.speaksOf_iff, Touches, ← graph.holding_eq]
  refine or_congr_right ⟨?strict, ?lax⟩
  case strict =>
    rintro ⟨front, value, -, isFront, notAll, content⟩
    exact ⟨front, value, isFront, notAll, graph.holding_eq front ▸ content⟩
  case lax =>
    rintro ⟨front, value, isFront, notAll, content⟩
    refine ⟨front, value, ?_, isFront, notAll, (graph.holding_eq front).trans content⟩
    rintro rfl
    simp [top] at content

/-- A layer that has nothing below its top touches no path that leads there. -/
theorem Graph.not_touches_of_nothing {graph : Graph}
    (nothing : ∀ path, path ≠ [] → graph.holding path = .nothing) {path : List Scalar}
    (leads : path ≠ []) : ¬graph.Touches path := by
  rintro (something | ⟨front, value, notTop, -, -, content⟩)
  · exact something (nothing path leads)
  · simp [nothing front notTop] at content

/-- What is no map holds nothing at any path. -/
theorem Graph.holding_of_not_map {graph : Graph} (noMap : graph.root.map? graph.shelf = none)
    {path : List Scalar} (leads : path ≠ []) : graph.holding path = .nothing := by
  obtain ⟨key, rest, rfl⟩ := List.exists_cons_of_ne_nil leads
  rw [graph.holding_eq]
  exact Tree.holding_cons_of_not_map noMap key rest

/-- A layer touches a place, by whatever keys that is named. -/
theorem Graph.touches_congr {graph : Graph} {path other : List Scalar}
    (same : placeOf path = placeOf other) (leads : path ≠ []) :
    graph.Touches path ↔ graph.Touches other := by
  cases isMap : graph.root.map? graph.shelf with
  | some found =>
    rw [touches_iff isMap, touches_iff isMap, speaksOf, speaksOf, Tree.speaksOf_congr same]
  | none =>
    have alsoLeads : other ≠ [] := by
      rintro rfl
      simp [placeOf, leads] at same
    have nothing : ∀ path, path ≠ [] → graph.holding path = .nothing :=
      fun _ => holding_of_not_map isMap
    simp only [not_touches_of_nothing nothing leads, not_touches_of_nothing nothing alsoLeads]

namespace Settings.Store

/-- Layers after a write into one of their maps that is on no shelf. -/
def Layers.amend (edit : Edit) (layers : Layers) : Layers :=
  { layers with branches := amendBranches edit layers.branches }

section Loading

variable {moment source : Nat} {others : List Nat} {name : String} {layer : Graph}
  {below above : Layers} {edit : Edit}

/-- A layer that counts as false touches nothing. -/
theorem not_touches_of_not_truthy (falsy : layer.isTruthy = false) {path : List Scalar}
    (leads : path ≠ []) : ¬layer.Touches path := by
  refine Graph.not_touches_of_nothing (fun path leads => ?_) leads
  cases isMap : layer.root.map? layer.shelf with
  | none => exact Graph.holding_of_not_map isMap leads
  | some found =>
    obtain ⟨key, rest, rfl⟩ := List.exists_cons_of_ne_nil leads
    have kind : layer.kind = .map := (Tree.kind_eq_map_iff ..).mpr (by simp [isMap])
    rw [layer.holding_eq]
    exact Tree.holding_of_silent _ _ _ (silent_of_not_truthy kind falsy key rest)

/-- Layers that were read in a moment, over settings that name nothing. -/
structure Layers.ReadFrom (moment : Nat) (sources : List Nat) (layers : Layers) : Prop where
  within : layers.graph.Within moment sources
  shelf : ∀ found ∈ layers.shelf.maps, found.1.IsNew moment

/-- The built-in layer was read from no source. -/
theorem Layers.ReadFrom.of_builtin {builtin : Branches} (plain : branchNames builtin = []) :
    Layers.ReadFrom moment [] { branches := builtin } where
  within := .of_lone (by simpa [Tree.names] using plain)
  shelf := by simp [Shelf.maps]

section Added

variable (read : layer.ReadFrom moment source) (belowRead : below.ReadFrom moment others)
  (added : (addLayer moment name layer below).result = .ok above)
include read belowRead added

/-- Layers were read from one source more after a layer was added. -/
theorem addLayer_readFrom : above.ReadFrom moment (source :: others) where
  within := addLayer_within read.toWithin belowRead.within added
  shelf found member := (mem_shelfMaps_of_addLayer added member).elim
    (fun high => isNew_of_readFrom read found (List.mem_append_right _ high)) (belowRead.shelf found)

variable (apart : source ∉ others)
include apart

/-- A layer that was read is passed over, or its branches are merged: they are new, and speak about what
the layer touches. -/
theorem addLayer_read_cases : (layer.isTruthy = false ∧ above = below) ∨
    (layer.isTruthy = true ∧ above.shelf = layer.shelf ++ below.shelf ∧
      ∃ owner branches, layer.root.map? layer.shelf = some (owner, branches) ∧
        mergeBranches? above.shelf moment below.branches branches = some above.branches ∧
        (∀ found ∈ branchMaps branches, found.1.IsNew moment) ∧
        ∀ key rest, layer.Touches (key :: rest) ↔
          (Tree.map owner branches).speaksOf above.shelf (key :: rest) = true) := by
  obtain passed | ⟨truthy, shelf, owner, branches, isLayer, made⟩ := addLayer_cases added
  · exact .inl passed
  · refine .inr ⟨truthy, shelf, owner, branches, isLayer, made, fun found inside => ?_,
      fun key rest => ?_⟩
    · exact isNew_of_readFrom read found (mem_graphMaps_of_inside isLayer inside)
    · have agree : Shelf.Agree moment [source] layer.shelf above.shelf := by
        rw [shelf]
        exact read.toWithin.agree_upper belowRead.within (by simpa using apart)
      rw [Graph.touches_iff isLayer, Graph.speaksOf, agree.speaksOf_of_map read.root isLayer]

variable {key : Scalar} {rest : List Scalar}

/-- A path leads to something new where the layer that is added touches it, and else to where it led
before. -/
theorem addLayer_mapAt? {result : Origin × Branches}
    (here : above.graph.root.mapAt? above.shelf (key :: rest) = some result) :
    (layer.Touches (key :: rest) → result.1.IsNew moment) ∧
      (¬layer.Touches (key :: rest) →
        below.graph.root.mapAt? below.shelf (key :: rest) = some result) := by
  obtain ⟨falsy, rfl⟩ | ⟨_, shelf, owner, branches, isLayer, made, upperNew, touches⟩ :=
    addLayer_read_cases read belowRead added apart
  · exact ⟨fun touched => absurd touched (not_touches_of_not_truthy falsy (List.cons_ne_nil _ _)),
      fun _ => here⟩
  · have shelfNew := (addLayer_readFrom read belowRead added).shelf
    have agree : Shelf.Agree moment others below.shelf above.shelf := by
      rw [shelf]
      exact read.toWithin.agree_lower belowRead.within (by simpa using apart)
    have step := mapAt?_mergeBranches shelfNew made upperNew .alone owner .alone here
    rw [touches, show below.graph.root.mapAt? below.shelf (key :: rest) =
      below.graph.root.mapAt? above.shelf (key :: rest) from
        agree.mapAt?_eq _ belowRead.within.root]
    split at step
    next speaks => exact ⟨fun _ => step, fun silent => absurd speaks silent⟩
    next silent => exact ⟨fun speaks => absurd speaks silent, fun _ => step⟩

variable (older : ∀ origin : Origin, origin.IsNew moment → (origin == edit.target) = false)
include older

/-- An older map stands where it stood before the layer was added. -/
theorem standsAt_addLayer {place : Identity} {ending : List Identity}
    (stands : above.graph.root.StandsAt edit.target (place :: ending)) :
    below.graph.root.StandsAt edit.target (place :: ending) := by
  obtain ⟨_, rfl⟩ | ⟨_, _, _, _, _, made, upperNew, _⟩ :=
    addLayer_read_cases read belowRead added apart
  · exact stands
  · exact standsAt_mergeBranches older (addLayer_readFrom read belowRead added).shelf made upperNew
      .alone stands

/-- A write into a map goes through the addition of a layer that touches no path to this map. -/
theorem addLayer_amend (untouched : ∀ key rest,
      below.graph.root.StandsAt edit.target (placeOf (key :: rest)) → ¬layer.Touches (key :: rest)) :
    (addLayer moment name layer (below.amend edit)).result = .ok (above.amend edit) := by
  obtain ⟨falsy, rfl⟩ | ⟨truthy, shelf, owner, branches, isLayer, made, upperNew, touches⟩ :=
    addLayer_read_cases read belowRead added apart
  · simp [addLayer, falsy, Traced.ok]
  · have shelfNew := (addLayer_readFrom read belowRead added).shelf
    have merged := mergeBranches?_amend older shelfNew upperNew .alone owner fun key rest stands => by
      rw [← Bool.not_eq_true, ← touches]
      exact untouched key rest stands
    rw [made, shelf] at merged
    rw [addLayer_of_merged truthy isLayer merged]
    simp [Layers.amend, shelf]

end Added

/-- The layers over the built-in settings, the lowest one first. -/
def outerLayers (moment : Nat) (defaultFile localFile : Graph) (overrides : Section) : List Graph :=
  [defaultFile, localFile, variableLayer moment overrides]

section Assembled

variable {store : Store} {surroundings : Surroundings} {layers : Layers}
  {defaultFile localFile : Graph} {overrides : Section} {key : Scalar} {rest : List Scalar}
  (plain : branchNames store.builtin = [])
  (reads : store.Reads moment surroundings defaultFile localFile overrides)
  (assembled : (store.assemble moment surroundings).result = .ok layers)
include plain reads assembled

/-- The outer layers are added to the built-in settings one after the other, and what is there by then
was read before. -/
theorem assemble_steps : ∃ withDefaults withLocal,
    (addLayer moment "default_config" defaultFile { branches := store.builtin }).result =
      .ok withDefaults ∧
    (addLayer moment "local_config" localFile withDefaults).result = .ok withLocal ∧
    (addLayer moment "environment" (variableLayer moment overrides) withLocal).result = .ok layers ∧
    withDefaults.ReadFrom moment [0] ∧ withLocal.ReadFrom moment [1, 0] ∧
    layers.ReadFrom moment [2, 1, 0] := by
  obtain ⟨base, _, withDefaults, _, withLocal, _, first, also, second, third, last⟩ :=
    assemble_eq_ok_iff.mp assembled
  obtain ⟨rfl, rfl, rfl⟩ := reads.unique also
  obtain rfl : { branches := store.builtin } = base := by simpa [addLayer_builtin] using first
  have defaultsRead := addLayer_readFrom (readLayer_readFrom reads.ofDefaults) (.of_builtin plain)
    second
  have localRead := addLayer_readFrom (readLayer_readFrom reads.ofLocal) defaultsRead third
  exact ⟨withDefaults, withLocal, second, third, last, defaultsRead, localRead,
    addLayer_readFrom (.grow ⟨moment, 2⟩ _) localRead last⟩

/-- A path leads to something new where a layer touches it, and else into the built-in settings. -/
theorem assemble_mapAt? {result : Origin × Branches}
    (here : layers.graph.root.mapAt? layers.shelf (key :: rest) = some result) :
    (∃ layer ∈ outerLayers moment defaultFile localFile overrides,
        layer.Touches (key :: rest)) ∧ result.1.IsNew moment ∨
      (∀ layer ∈ outerLayers moment defaultFile localFile overrides,
        ¬layer.Touches (key :: rest)) ∧
        (Tree.map .alone store.builtin).mapAt? [] (key :: rest) = some result := by
  obtain ⟨withDefaults, withLocal, second, third, last, defaultsRead, localRead, _⟩ :=
    assemble_steps plain reads assembled
  obtain ⟨variablesNew, variablesOld⟩ :=
    addLayer_mapAt? (.grow ⟨moment, 2⟩ _) localRead last (by simp) here
  by_cases byVariables : (variableLayer moment overrides).Touches (key :: rest)
  · exact .inl ⟨⟨_, by simp [outerLayers], byVariables⟩, variablesNew byVariables⟩
  obtain ⟨localNew, localOld⟩ := addLayer_mapAt? (readLayer_readFrom reads.ofLocal) defaultsRead third
    (by simp) (variablesOld byVariables)
  by_cases byLocal : localFile.Touches (key :: rest)
  · exact .inl ⟨⟨localFile, by simp [outerLayers], byLocal⟩, localNew byLocal⟩
  obtain ⟨defaultNew, defaultOld⟩ := addLayer_mapAt? (readLayer_readFrom reads.ofDefaults)
    (.of_builtin plain) second (by simp) (localOld byLocal)
  by_cases byDefaults : defaultFile.Touches (key :: rest)
  · exact .inl ⟨⟨defaultFile, by simp [outerLayers], byDefaults⟩, defaultNew byDefaults⟩
  · exact .inr ⟨by simp [outerLayers, byDefaults, byLocal, byVariables], defaultOld byDefaults⟩

/-- A write into a built-in map goes through the load if no layer touches a path to this map. -/
theorem assemble_amend {other : Store} (folder : other.folder = store.folder)
    (builtin : other.builtin = amendBranches edit store.builtin)
    (older : ∀ origin : Origin, origin.IsNew moment → (origin == edit.target) = false)
    (untouched : ∀ layer ∈ outerLayers moment defaultFile localFile overrides, ∀ key rest,
      (Tree.map .alone store.builtin).StandsAt edit.target (placeOf (key :: rest)) →
        ¬layer.Touches (key :: rest)) :
    (other.assemble moment surroundings).result = .ok (layers.amend edit) := by
  obtain ⟨withDefaults, withLocal, second, third, last, defaultsRead, localRead, _⟩ :=
    assemble_steps plain reads assembled
  simp only [outerLayers, List.forall_mem_cons] at untouched
  obtain ⟨byDefaults, byLocal, byVariables, -⟩ := untouched
  have ofDefaults := readLayer_readFrom reads.ofDefaults
  have ofLocal := readLayer_readFrom reads.ofLocal
  -- Where the map stands by the time that a layer is added, it stands among the built-in settings.
  have inDefaults : ∀ {key rest}, withDefaults.graph.root.StandsAt edit.target (placeOf (key :: rest)) →
      (Tree.map .alone store.builtin).StandsAt edit.target (placeOf (key :: rest)) :=
    standsAt_addLayer ofDefaults (.of_builtin plain) second (by simp) older
  have inLocal : ∀ {key rest}, withLocal.graph.root.StandsAt edit.target (placeOf (key :: rest)) →
      (Tree.map .alone store.builtin).StandsAt edit.target (placeOf (key :: rest)) :=
    fun stands => inDefaults (standsAt_addLayer ofLocal defaultsRead third (by simp) older stands)
  have path : other.filePath = store.filePath := by
    funext name
    simp only [filePath, folder]
  have otherReads : other.Reads moment surroundings defaultFile localFile overrides :=
    ⟨path ▸ reads.ofDefaults, path ▸ reads.ofLocal, reads.ofVariables⟩
  have first : (addLayer moment "defaults" other.builtinLayer {}).result =
      .ok (Layers.amend edit { branches := store.builtin }) := by
    rw [addLayer_builtin, builtin]
    rfl
  exact assemble_eq_ok_iff.mpr ⟨_, _, _, _, _, _, first, otherReads,
    addLayer_amend ofDefaults (.of_builtin plain) second (by simp) older byDefaults,
    addLayer_amend ofLocal defaultsRead third (by simp) older
      fun key rest stands => byLocal key rest (inDefaults stands),
    addLayer_amend (.grow ⟨moment, 2⟩ _) localRead last (by simp) older
      fun key rest stands => byVariables key rest (inLocal stands)⟩

end Assembled

end Loading

section Again

variable {labels : Relabelling} (faithful : labels.IsFaithful) {store : Store}
  {surroundings : Surroundings} {layers : Layers} {moment : Nat}
include faithful

/-- A load at another moment, over built-in settings that do not bear it, comes to the same. -/
theorem assemble_again (same : relabelBranches labels store.builtin = store.builtin)
    (assembled : (store.assemble moment surroundings).result = .ok layers) :
    (store.assemble (labels.moment moment) surroundings).result = .ok (layers.relabel labels) := by
  have relabelled := assemble_relabel faithful store moment surroundings
  have congr : (store.relabel labels).assemble (labels.moment moment) surroundings =
      store.assemble (labels.moment moment) surroundings := assemble_congr rfl same
  rw [← congr, relabelled, assembled]
  rfl

/-- Layers without their marks do not depend on names. -/
theorem unmarked_relabel (layers : Layers) :
    (layers.relabel labels).graph.value.unmarked = layers.graph.value.unmarked := by
  have value : (layers.relabel labels).graph.value =
      layers.graph.value.mapMarks (Mark.relabel labels) := layers.graph.value_relabel faithful
  rw [value, Value.unmarked_mapMarks]

/-- What is in force after a load at another moment is what would have been merged before. -/
theorem reload_unmarked (same : relabelBranches labels store.builtin = store.builtin)
    (assembled : (store.assemble moment surroundings).result = .ok layers) :
    (store.load (labels.moment moment) surroundings).1.settings.value.unmarked =
      layers.graph.value.unmarked := by
  rw [settings_load_of_ok (assemble_again faithful same assembled), unmarked_relabel faithful]

/-- A write into settings that do not bear a moment does not bear it either. -/
theorem relabelBranches_write {target : Origin} {builtin below : Branches} {written : Nat}
    {along ending : List Scalar} {last : Scalar} {item : Value}
    (same : relabelBranches labels builtin = builtin)
    (keys : ∀ key ∈ along ++ last :: ending, key.relabel labels = key)
    (fixed : labels.moment written = written) (unmarked : item.mapMarks (Mark.relabel labels) = item)
    (here : (Tree.map .alone builtin).mapAt? [] along = some (target, below)) :
    relabelBranches labels
        (amendBranches ⟨target, plant written item along last ending below⟩ builtin) =
      amendBranches ⟨target, plant written item along last ending below⟩ builtin := by
  simp only [List.forall_mem_append, List.forall_mem_cons] at keys
  obtain ⟨front, ofLast, back⟩ := keys
  have frontSame : along.map (Scalar.relabel labels) = along := by
    rw [List.map_congr_left front, List.map_id']
  have backSame : ending.map (Scalar.relabel labels) = ending := by
    rw [List.map_congr_left back, List.map_id']
  have found := Tree.mapAt?_relabel faithful [] (Tree.map .alone builtin) along
  have root : (Tree.map .alone builtin).relabel labels = Tree.map .alone builtin := by
    rw [Tree.relabel, same]
    rfl
  have shelf : Shelf.relabel labels [] = [] := rfl
  rw [root, shelf, frontSame, here, Option.map_some, Option.some.injEq, Prod.mk.injEq] at found
  rw [amendBranches_relabel faithful, same, Edit.relabel, plant_relabel faithful, ← found.1, ← found.2,
    frontSame, backSame, ofLast, fixed, unmarked]

end Again

end Settings.Store

end Switchboard
