import Mathlib.Logic.Equiv.Basic
import Switchboard.Proofs.Settings.Lasting

/-!
# What survives a load

Settings are loaded, written to and loaded again. What was written survives where the write went into a built-in
map that no outer layer touches, and is gone otherwise (`IsSettled.reload_after_set`). The settings may be any
that came into being before (`IsSettled`); only the map that is written into must not stand in a second place among
the built-in ones, where an outer layer could touch it (`HoldsOnce`).

Values that nobody else holds never bring that about (`Lived.holdsOnce`). To write one of the settings elsewhere as
well does: then a load may bring up what is written in a place where it was not in force before
(`Doubled.reload_of_doubled`).
-/

namespace Switchboard

namespace Settings.Store

/-- Two moments exchanged for one another. -/
def exchanged (first second : Nat) : Relabelling := ⟨Equiv.swap first second, id⟩

/-- To exchange two moments is faithful. -/
theorem exchanged_isFaithful (first second : Nat) : (exchanged first second).IsFaithful where
  moment same := (Equiv.swap first second).injective same
  source _ := rfl

/-- Whether what a path leads to is a map of the built-in settings that is shared with those in force: it
is below their top, and no outer layer touches it. -/
def IsShared (layers : List Graph) (reached : List Scalar) : Prop :=
  reached ≠ [] ∧ ∀ layer ∈ layers, ¬layer.Touches reached

end Settings.Store

/-- Whether an origin is that of a map that came into being by a moment. -/
def Origin.IsPast (now : Nat) : Origin → Prop
  | .alone => False
  | .made known _ | .read known _ _ => known ≤ now

/-- What has been is not what comes into being later. -/
theorem Origin.IsPast.beq_eq_false {now moment : Nat} {origin other : Origin}
    (past : origin.IsPast now) (isNew : other.IsNew moment) (later : now < moment) :
    (other == origin) = false := by
  rw [Bool.eq_false_iff]
  intro same
  cases origin with
  | alone => exact past
  | made known path =>
    cases other with
    | made moment _ =>
      obtain rfl := isNew
      exact Nat.not_le_of_lt later ((made_beq_iff.mp same).1 ▸ past)
    | _ => contradiction
  | read known source number =>
    obtain rfl := eq_of_beq_read same
    obtain rfl : known = moment := isNew
    exact Nat.not_le_of_lt later past

namespace Settings.Store

/-- Settings whose built-in part came into being by a moment, its maps and the numbers that are none in it, and
is nested maps. -/
structure IsSettled (now : Nat) (store : Store) : Prop where
  plain : branchNames store.builtin = []
  past : ∀ found ∈ branchMaps store.builtin, found.1.IsPast now
  /-- It is what it is, whatever later moments are called. -/
  unborne : ∀ labels : Relabelling, labels.IsFaithful →
    (∀ known, known ≤ now → labels.moment known = known) →
      relabelBranches labels store.builtin = store.builtin

/-- Whether the built-in map at the end of a path stands nowhere else among the built-in settings. -/
def HoldsOnce (store : Store) (reached : List Scalar) : Prop :=
  ∀ target below, (Tree.map .alone store.builtin).mapAt? [] reached = some (target, below) →
    ∀ place, (Tree.map .alone store.builtin).StandsAt target place → place = placeOf reached

section Outcome

variable {folder dotted : String} {now first written again : Nat} {store : Store}
  {surroundings : Surroundings} {defaultFile localFile : Graph} {overrides : Section}
  {layers : Layers} {item : Value}

section Write

variable {along ending : List Scalar} {last : Scalar} {target : Origin} {below : Branches}
  (settled : store.IsSettled now)
  (reads : store.Reads first surroundings defaultFile localFile overrides)
  (assembled : (store.assemble first surroundings).result = .ok layers) (leads : along ≠ [])
  (reached : layers.graph.root.mapAt? layers.shelf along = some (target, below))
include settled reads assembled leads reached

/-- The built-in maps were made before the load, and what is not shared with them came into being then. -/
theorem builtin_of_not_shared (began : now < first)
    (notShared : ¬IsShared (outerLayers first defaultFile localFile overrides) along)
    (branches : Branches) : amendBranches ⟨target, branches⟩ store.builtin = store.builtin := by
  obtain ⟨key, rest, rfl⟩ := List.exists_cons_of_ne_nil leads
  rcases assemble_mapAt? settled.plain reads assembled reached with ⟨_, isNew⟩ | ⟨untouched, _⟩
  · refine amendBranches_of_absent fun found member => ?_
    rw [BEq.comm]
    exact (settled.past found member).beq_eq_false isNew began
  · exact absurd ⟨leads, untouched⟩ notShared

/-- A shared map is the built-in one. -/
theorem mapAt?_of_shared
    (shared : IsShared (outerLayers first defaultFile localFile overrides) along) :
    (Tree.map .alone store.builtin).mapAt? [] along = some (target, below) := by
  obtain ⟨key, rest, rfl⟩ := List.exists_cons_of_ne_nil leads
  rcases assemble_mapAt? settled.plain reads assembled reached with
    ⟨⟨layer, isOuter, touches⟩, _⟩ | ⟨_, here⟩
  · exact absurd touches (shared.2 layer isOuter)
  · exact here

/-- What is written into a shared map that stands once is in force as it would be if it had been loaded. -/
theorem amend_of_shared (began : now < first) (once : store.HoldsOnce along)
    (shared : IsShared (outerLayers first defaultFile localFile overrides) along)
    (branches : Branches) {changed : Store} (isChanged : changed =
      ({ store with current := layers.branches, shelf := layers.shelf } : Store).amend
        ⟨target, branches⟩) :
    (changed.assemble first surroundings).result = .ok (layers.amend ⟨target, branches⟩) ∧
      (layers.amend ⟨target, branches⟩).graph = changed.settings := by
  have here := mapAt?_of_shared settled reads assembled leads reached shared
  have isOwn : (target, below) ∈ branchMaps store.builtin :=
    (mem_branchMaps_of_mapAt? leads here).resolve_right (by simp [Shelf.maps])
  have older : ∀ origin : Origin, origin.IsNew first → (origin == target) = false :=
    fun origin isNew => (settled.past _ isOwn).beq_eq_false isNew began
  -- Wherever else the map stood, a layer could touch it there.
  have untouched : ∀ layer ∈ outerLayers first defaultFile localFile overrides, ∀ key rest,
      (Tree.map .alone store.builtin).StandsAt target (placeOf (key :: rest)) →
        ¬layer.Touches (key :: rest) := by
    intro layer isOuter key rest stands
    rw [Graph.touches_congr (once target below here _ stands) (List.cons_ne_nil key rest)]
    exact shared.2 layer isOuter
  subst isChanged
  refine ⟨assemble_amend settled.plain reads assembled rfl rfl older untouched, ?_⟩
  obtain ⟨_, _, _, _, _, _, _, read⟩ := assemble_steps settled.plain reads assembled
  have shelf : layers.shelf.amend ⟨target, branches⟩ = layers.shelf :=
    Shelf.amend_of_absent fun found member => older _ (read.shelf found member)
  rw [Layers.amend, Layers.graph, settings, amend, shelf]

end Write

/-- Settings that were loaded are written to and merged again as of the load: a write into a shared map
is merged as it is in force, and after any other write nothing else is merged than before. The built-in
settings bear no moment that they did not bear before, nor the write. -/
theorem merged_after_set (settled : store.IsSettled now) (began : now < first)
    (reads : store.Reads first surroundings defaultFile localFile overrides)
    (assembled : (store.assemble first surroundings).result = .ok layers)
    (once : ∀ reached, (store.load first surroundings).1.settings.LeadsTo (dottedPath dotted) reached →
      store.HoldsOnce reached)
    {labels : Relabelling} (faithful : labels.IsFaithful)
    (same : relabelBranches labels store.builtin = store.builtin)
    (fixed : labels.moment written = written)
    (unmarked : item.mapMarks (Mark.relabel labels) = item) :
    let loaded := (store.load first surroundings).1
    let changed := (loaded.set written dotted item).1
    let outer := outerLayers first defaultFile localFile overrides
    ∃ reached others, loaded.settings.LeadsTo (dottedPath dotted) reached ∧
      (changed.assemble first surroundings).result = .ok others ∧
      relabelBranches labels changed.builtin = changed.builtin ∧
      (IsShared outer reached → others.graph = changed.settings) ∧
      (¬IsShared outer reached → others = layers) := by
  intro loaded changed outer
  have isLoaded : loaded = { store with current := layers.branches, shelf := layers.shelf } :=
    load_of_ok assembled
  obtain ⟨along, last, ending, target, below, split, reached, leads, isChanged⟩ :=
    loaded.set_follows written dotted item
  replace isChanged : changed = _ := isChanged
  rw [isLoaded] at reached isChanged
  by_cases shared : IsShared outer along
  · rw [if_neg (by simp [shared.1])] at isChanged
    obtain ⟨merged, inForce⟩ := amend_of_shared settled reads assembled shared.1 reached began
      (once along leads) shared _ isChanged
    have keys : ∀ key ∈ along ++ last :: ending, key.relabel labels = key := by
      rw [← split]
      simp [dottedPath, Scalar.relabel, Scalar.mapMark]
    have here := mapAt?_of_shared settled reads assembled shared.1 reached shared
    have unborne := relabelBranches_write faithful same keys fixed unmarked here
    exact ⟨along, _, leads, merged, isChanged ▸ unborne, fun _ => inForce,
      fun notShared => absurd shared notShared⟩
  · have spared : changed.folder = store.folder ∧ changed.builtin = store.builtin := by
      rw [isChanged]
      split
      next => exact ⟨rfl, rfl⟩
      next deeper =>
        have below : along ≠ [] := by simpa using deeper
        exact ⟨rfl, builtin_of_not_shared settled reads assembled below reached began shared _⟩
    exact ⟨along, layers, leads, by rw [assemble_congr spared.1 spared.2, assembled],
      by rw [spared.2, same], fun isShared => absurd isShared shared, fun _ => rfl⟩

end Outcome

/-! Where all that was written before was nobody else's, a built-in map stands where it was made, and nowhere
else. -/

/-- Among tidy maps a map stands where it was made. -/
theorem placeOf_of_standsAt {tidy : Nat → Prop} {above place : List Identity} {tree : Tree}
    {moment : Nat} {path : List Scalar} (stands : tree.StandsAt (.made moment path) place)
    (placed : tree.Placed tidy above) (made : ∀ found ∈ tree.maps, found.1.IsMadeIn tidy) :
    placeOf path = above ++ place := by
  induction stands generalizing above with
  | here same =>
    obtain ⟨known, own, rfl, stood⟩ := placed.stands (made _ List.mem_cons_self)
    rw [List.append_nil, ← stood, (Origin.made_beq_iff.mp same).2]
  | @under _ _ key inner _ member _ ih =>
    have below := ih (placed.within _ member) fun found inside =>
      made found (List.mem_cons_of_mem _ (mem_branchMaps.mpr ⟨(key, inner), member, inside⟩))
    simpa using below

section Lived

variable {folder : String} {now : Nat} {store : Store} (lived : Lived folder now store)
include lived

/-- A store into which only values of their own were written is settled. -/
theorem Lived.isSettled : store.IsSettled now := by
  obtain ⟨kept, _, separated, -, -⟩ := lived.reachable.placed
  refine ⟨separated.plain, fun found member => ?past, fun labels faithful fixed =>
    congrArg Store.builtin (lived.relabel_eq faithful fixed)⟩
  case past =>
    have made := separated.own found member
    obtain ⟨origin, branches⟩ := found
    cases origin with
    | made known path => exact separated.past known made
    | _ => exact made.elim

/-- As long as only values of their own are written, each built-in map stands in one place. -/
theorem Lived.holdsOnce (reached : List Scalar) : store.HoldsOnce reached := by
  obtain ⟨kept, tidy, separated, placed, all⟩ := lived.reachable.placed
  have own : ∀ found ∈ branchMaps store.builtin, found.1.IsMadeIn tidy :=
    fun found member => (separated.own found member).mono all
  intro target below here place stands
  cases reached with
  | nil =>
    obtain rfl : .alone = target := by simpa using congrArg (Option.map Prod.fst) here
    cases stands with
    | here _ => rfl
    | under member inside =>
      obtain ⟨found, isFound, same⟩ := inside.exists_maps
      exact ((Origin.IsMadeIn.congr same).mp (own found (mem_branchMaps.mpr ⟨_, member, isFound⟩))).elim
  | cons key rest =>
    have isOwn : (target, below) ∈ branchMaps store.builtin :=
      (mem_branchMaps_of_mapAt? (List.cons_ne_nil _ _) here).resolve_right (by simp [Shelf.maps])
    simp only [Tree.mapAt?_cons, Tree.map?_map, Option.bind_some, Option.bind_eq_some_iff] at here
    obtain ⟨inner, under, here⟩ := here
    have targetPlaced : (Tree.map target below).Placed tidy (placeOf (key :: rest)) :=
      (placed.builtin.get? under).mapAt? (by simp [Shelf.maps]) here
    obtain ⟨moment, path, rfl, stood⟩ := targetPlaced.stands (own _ isOwn)
    cases stands with
    | here same => contradiction
    | under member inside =>
      have found := placeOf_of_standsAt inside (placed.builtin _ member) fun found isFound =>
        own found (mem_branchMaps.mpr ⟨_, member, isFound⟩)
      rw [← stood, found]
      rfl

end Lived

/-! A level that is written after a load from no files goes into the built-in section, which is in force. -/

namespace Level

/-- The key of the level leads to the logging section. -/
theorem leadsTo_logging :
    (fresh.load 1 {}).1.settings.LeadsTo (dottedPath "logging.level") [.text "logging"] := by
  have path : dottedPath "logging.level" = [.text "logging"] ++ .text "level" :: [] := by rfl
  have reached : ∃ below, (Tree.map .alone originalBuiltin).mapAt? [] [.text "logging"] =
      some (.made 0 [.text "logging"], below) := ⟨_, rfl⟩
  obtain ⟨below, reached⟩ := reached
  rw [load_fresh, path]
  exact leadsTo_of_stops reached (.inl rfl)

/-- The logging section is shared, as nothing else speaks of it. -/
theorem isShared_logging :
    IsShared (outerLayers 1 (.ofValue (.map [])) (.ofValue (.map [])) []) [.text "logging"] := by
  refine ⟨by simp, fun layer isOuter => not_touches_of_not_truthy ?_ (by simp)⟩
  simp only [outerLayers, List.mem_cons, List.not_mem_nil, or_false] at isOuter
  rcases isOuter with rfl | rfl | rfl <;> rfl

end Level

/-! Of a section that was written in a second place as well, and of a variable that touches it there. -/

namespace Doubled

/-- The logging section stands where the section of the classifier stood as well. -/
def doubled : Store :=
  match (Level.fresh.load 1 {}).1.settings.root.at? [] [.text "logging"] with
  | some logging => ((Level.fresh.load 1 {}).1.share 2 "telephony.emergency_classifier" logging).1
  | none => Level.fresh

/-- The store by its built-in settings. -/
theorem doubled_eq : doubled = (({ Level.fresh with current := originalBuiltin } : Store).share 2
    "telephony.emergency_classifier" (.map (.made 0 [.text "logging"])
      ((mapUnder? [] (.text "logging") originalBuiltin).elim [] Prod.snd))).1 := by
  rw [doubled, Level.load_fresh]
  rfl

/-- A variable alone. -/
def surroundings : Surroundings := { environment := [("CALLROUTE_CLASSIFIER_ENABLED", "true")] }

/-- What the variable says. -/
def overrides : Section :=
  [(.text "telephony", .record [("emergency_classifier", .record [("enabled", .bool true)])])]

/-- The built-in settings under the variable. -/
def overlaid (moment : Nat) (store : Store) : Option Branches :=
  mergeBranches? [] moment store.builtin (growBranches (.made moment) [] overrides)

/-- A load puts the built-in settings under the variable in force. -/
theorem load_eq {store : Store} {moment : Nat} (folder : store.folder = "config")
    (ends : (overlaid moment store).isSome) : (store.load moment surroundings).1 =
      { store with current := (overlaid moment store).getD [], shelf := [] } := by
  obtain ⟨branches, merged⟩ := Option.isSome_iff_exists.mp ends
  have reads : store.Reads moment surroundings (.ofValue (.map [])) (.ofValue (.map [])) overrides :=
    .of_no_files folder moment rfl
  have assembled : (store.assemble moment surroundings).result = .ok { branches } :=
    assemble_eq_ok_iff.mpr ⟨_, _, _, _, _, _, addLayer_builtin, reads, rfl, rfl,
      addLayer_of_merged rfl rfl merged⟩
  rw [load_of_ok assembled, merged, Option.getD_some]

/-- No layer touches the logging section where it was made. -/
theorem isShared_logging :
    IsShared (outerLayers 3 (.ofValue (.map [])) (.ofValue (.map [])) overrides) [.text "logging"] := by
  refine ⟨by simp, fun layer isOuter => ?_⟩
  simp only [outerLayers, List.mem_cons, List.not_mem_nil, or_false] at isOuter
  rcases isOuter with rfl | rfl | rfl
  · exact not_touches_of_not_truthy rfl (by simp)
  · exact not_touches_of_not_truthy rfl (by simp)
  · rw [Graph.touches_iff rfl]
    decide

/-- A file is written into the logging section after a load. -/
def changed : Store :=
  ((doubled.load 3 surroundings).1.set 4 "logging.file" (.text "calls.log")).1

/-- A file that is written into the section is after the next load where it was not after the write, and it was
nowhere after the load before. -/
theorem reload_of_doubled :
    changed.get "telephony.emergency_classifier.file" .null = .null ∧
      (changed.load 5 surroundings).1.get "telephony.emergency_classifier.file" .null =
        .text "calls.log" ∧
      (doubled.load 3 surroundings).1.get "logging.file" .null = .null ∧
      (changed.load 5 surroundings).1.get "logging.file" .null = .text "calls.log" := by
  have loaded : (doubled.load 3 surroundings).1 =
      { doubled with current := (overlaid 3 doubled).getD [], shelf := [] } := by
    rw [doubled_eq]
    exact load_eq rfl rfl
  have written : changed = (({ doubled with current := (overlaid 3 doubled).getD [], shelf := [] } :
      Store).set 4 "logging.file" (.text "calls.log")).1 := by
    rw [changed, loaded]
  have reloaded : (changed.load 5 surroundings).1 =
      { changed with current := (overlaid 5 changed).getD [], shelf := [] } := by
    rw [written, doubled_eq]
    exact load_eq rfl rfl
  rw [reloaded, loaded, written, doubled_eq]
  exact ⟨rfl, rfl, rfl, rfl⟩

end Doubled

end Settings.Store

end Switchboard
