import Switchboard.Proofs.Settings.Reloading
import Switchboard.Proofs.Settings.Reporting
import Switchboard.Proofs.Settings.Standing

/-!
# Writing and reading settings

What is written under a dotted key is read there, the later of two writes decides, and what stands under a
key that parts from this one stays (`Store.set_obeys`). That much holds where the map that the write changes
is not on the way to itself, and, for the other key, where it does not stand there as well; among settings in
which every map stands once all of it holds. Where a file puts one map in two places, a write in the one place
shows in the other, and what is written into a map that stands in itself may not be found
(`Aliased.set_disobeyed`).
-/

namespace Switchboard

open Settings

namespace Settings.Store

section Laws

variable {store : Store} {key : String} {reached : List Scalar} {target : Origin}

/-- An edit below the top of the settings is an edit of them. -/
theorem settings_amend {edit : Edit} (below : (Origin.alone == edit.target) = false) :
    (store.amend edit).settings = store.settings.amend edit := by
  simp [settings, amend, Graph.amend, Tree.amend, below]

/-- A write changes the map that its key leads to. -/
theorem settings_set (opens : store.settings.Opens (dottedPath key) reached target) :
    ∃ last ending below, dottedPath key = reached ++ last :: ending ∧
      store.settings.root.mapAt? store.shelf reached = some (target, below) ∧
      (ending = [] ∨ mapUnder? store.shelf last below = none) ∧
      ∀ moment item, (store.set moment key item).1.settings =
        store.settings.written reached ⟨target, plant moment item reached last ending below⟩ := by
  obtain ⟨below, here⟩ := opens.ends
  obtain ⟨along, last, ending, _, _, split, _, leads, -⟩ := store.set_follows 0 key .null
  obtain rfl := opens.leads.unique leads
  refine ⟨last, ending, below, split, here, (split ▸ leads).stops here, fun moment item => ?_⟩
  obtain ⟨along, alsoLast, alsoEnding, alsoTarget, alsoBelow, alsoSplit, alsoHere, alsoLeads,
    written⟩ := store.set_follows moment key item
  obtain rfl := opens.leads.unique alsoLeads
  obtain ⟨rfl, rfl⟩ := List.cons.inj (List.append_cancel_left (split.symm.trans alsoSplit))
  obtain ⟨rfl, rfl⟩ := Prod.mk.inj (Option.some.inj (here.symm.trans alsoHere))
  rw [written]
  cases reached with
  | nil =>
    obtain ⟨rfl, rfl⟩ : Origin.alone = target ∧ store.current = below := by
      simpa [settings] using here
    rfl
  | cons first rest =>
    have below : (Origin.alone == target) = false :=
      opens.straight [] (.alone, store.current) (by simp) (by simp) (by simp [settings])
    exact settings_amend below

/-- What is written is read. -/
theorem get_set (opens : store.settings.Opens (dottedPath key) reached target) (moment : Nat)
    {item : Value} (whole : item.isWhole = true) (default : Value) :
    (store.set moment key item).1.get key default = item := by
  obtain ⟨last, ending, below, split, here, -, written⟩ := settings_set opens
  have planted := Graph.mapAt?_written ⟨target, plant moment item reached last ending below⟩
    opens.straight here
  rw [get, written, Graph.get_eq, Graph.valueAt?, split, Tree.at?_append_cons planted]
  simp [plant, at?_grow_nested, Tree.value, valueWith_grow _ _ _ item whole]

/-- What stands under a key that parts from the one that is written to stays, where it is spared. -/
theorem get_set_of_apart (opens : store.settings.Opens (dottedPath key) reached target)
    (moment : Nat) (item : Value) {dotted : String} (noFront : ¬dottedPath dotted <+: dottedPath key)
    (notLonger : ¬dottedPath key <+: dottedPath dotted)
    (spares : reached ≠ [] → store.settings.Spares target (dottedPath key) (dottedPath dotted))
    (default : Value) : (store.set moment key item).1.get dotted default = store.get dotted default := by
  obtain ⟨last, ending, below, split, here, stops, written⟩ := settings_set opens
  have same := Graph.valueAt?_written ⟨target, plant moment item reached last ending below⟩
    opens.straight here rfl stops
    (split ▸ noFront) (split ▸ notLonger)
    (fun _ member _ otherMember => dottedPath_apart (split ▸ member) otherMember)
    (fun inside => split ▸ spares inside)
  rw [get, get, written, Graph.get_eq, Graph.get_eq, same]

/-- Whether all maps of the settings in force were there by a moment. -/
def IsBy (moment : Nat) (store : Store) : Prop := ∀ found ∈ store.maps, found.1.IsBy moment

/-- Nothing in a reachable store was made after its moment. -/
theorem Reachable.isBy {folder : String} {moment : Nat} {store : Store}
    (reachable : Reachable folder moment store) : store.IsBy moment := by
  obtain ⟨kept, separated⟩ := reachable.separated
  exact fun found member => (separated.fits found member).age

/-- No map is one that was made later. -/
theorem IsBy.fresh {before moment : Nat} (past : store.IsBy before) (later : before < moment)
    (path : List Scalar) :
    ∀ found ∈ graphMaps store.settings, (found.1 == .made moment path) = false := by
  intro found member
  have age : found.1.IsBy before := by
    rcases List.mem_append.mp member with inRoot | onShelf
    · rcases List.mem_cons.mp inRoot with rfl | inside
      · trivial
      · exact past found (List.mem_append_left _ inside)
    · exact past found (List.mem_append_right _ onShelf)
  obtain ⟨origin, branches⟩ := found
  cases origin with
  | made known place =>
    rw [Bool.eq_false_iff]
    intro same
    obtain rfl := (Origin.made_beq_iff.mp same).1
    exact Nat.not_le_of_lt later age
  | alone => rfl
  | read _ _ _ => rfl

section Twice

variable {before first second : Nat} {item other : Value} {last : Scalar} {ending : List Scalar}
  {below : Branches}

/-- Where a write made maps, a second one goes into the innermost of them. -/
theorem set_of_planted {wrote : Store} {front : List Scalar} {final : Scalar}
    (isKey : dottedPath key = reached ++ last :: (front ++ [final]))
    (planted : wrote.settings.root.mapAt? wrote.shelf reached =
      some (target, plant first item reached last (front ++ [final]) below)) :
    (wrote.set second key other).1.settings = wrote.settings.amend
      ⟨.made first (reached ++ last :: front),
        plant second other (reached ++ last :: front) final []
          [(final, Tree.grow (.made first) (reached ++ last :: front ++ [final]) item)]⟩ := by
  have here : wrote.settings.root.mapAt? wrote.shelf (reached ++ last :: front) =
      some (.made first (reached ++ last :: front),
        [(final, Tree.grow (.made first) (reached ++ last :: front ++ [final]) item)]) := by
    rw [Tree.mapAt?_append, planted, Option.bind_some, Tree.mapAt?_cons, Tree.map?_map,
      Option.bind_some, plant, Entries.get?_put_self, Option.bind_some, mapAt?_grow_nested]
    simp
  have isPath : dottedPath key = (reached ++ last :: front) ++ final :: [] := by simp [isKey]
  have leads : wrote.settings.LeadsTo (dottedPath key) (reached ++ last :: front) :=
    isPath ▸ leadsTo_of_stops here (.inl rfl)
  obtain ⟨along, alsoLast, alsoEnding, alsoTarget, alsoBelow, split, there, alsoLeads, written⟩ :=
    wrote.set_follows second key other
  obtain rfl := leads.unique alsoLeads
  obtain ⟨rfl, rfl⟩ := List.cons.inj (List.append_cancel_left (isPath.symm.trans split))
  obtain ⟨rfl, rfl⟩ := Prod.mk.inj (Option.some.inj (here.symm.trans there))
  rw [written, if_neg (by simp)]
  exact settings_amend rfl

/-- A second write into the innermost of the maps that the first one planted leaves what it would have
planted itself. -/
theorem alike_replanted (whole : other.isWhole = true) {front : List Scalar} {final : Scalar}
    {inner : Branches} (isInner : ∀ shelved, branchesWith shelved inner = [(final, other)])
    (fresh : ∀ found ∈ branchMaps below,
      (found.1 == .made first (reached ++ last :: front)) = false) :
    Alike (amendBranches ⟨.made first (reached ++ last :: front), inner⟩
        (plant first item reached last (front ++ [final]) below))
      (plant second other reached last (front ++ [final]) below) := by
  intro shelved
  have replaced := valueWith_amend_nested shelved first item (reached ++ [last]) front final inner
  rw [List.append_assoc, List.singleton_append, isInner shelved] at replaced
  have grown := valueWith_grow shelved (.made second) (reached ++ [last])
    (nested (front ++ [final]) other) (isWhole_nested _ whole)
  have path : nested (front ++ [final]) other = nested front (.map [(final, other)]) := by
    simp [nested]
  rw [plant, plant, amendBranches_put _ _ fresh, branchesWith_put, branchesWith_put, replaced, grown,
    path]

section Again

variable {wrote : Store} {inner : Branches}
  (opens : store.settings.Opens (dottedPath key) reached target)
  (here : store.settings.root.mapAt? store.shelf reached = some (target, below))
include opens here

/-- A path that leads to a written map leads to what was written. -/
theorem mapAt?_of_written (isWritten : wrote.settings = store.settings.written reached ⟨target, inner⟩) :
    wrote.settings.root.mapAt? wrote.shelf reached = some (target, inner) := by
  have leadsThere := Graph.mapAt?_written ⟨target, inner⟩ opens.straight here
  rwa [← isWritten] at leadsThere

/-- A second write under the last key of the first changes the same map. -/
theorem set_of_written (isKey : dottedPath key = reached ++ [last])
    (isWritten : wrote.settings =
      store.settings.written reached ⟨target, plant first item reached last [] below⟩) :
    (wrote.set second key other).1.settings =
      store.settings.written reached ⟨target, plant second other reached last [] below⟩ := by
  have planted := mapAt?_of_written opens here isWritten
  have straight : wrote.settings.root.Avoids wrote.shelf target reached := by
    have avoids := Graph.avoids_written ⟨target, plant first item reached last [] below⟩
      opens.straight
    rwa [← isWritten] at avoids
  have again : wrote.settings.Opens (dottedPath key) reached target :=
    ⟨isKey ▸ leadsTo_of_stops planted (.inl rfl), ⟨_, planted⟩, straight⟩
  obtain ⟨alsoLast, alsoEnding, alsoBelow, alsoKey, there, -, rewritten⟩ := settings_set again
  obtain ⟨rfl, rfl⟩ := List.cons.inj (List.append_cancel_left (isKey.symm.trans alsoKey))
  obtain ⟨-, rfl⟩ := Prod.mk.inj (Option.some.inj (planted.symm.trans there))
  have replaced : plant second other reached last [] (plant first item reached last [] below) =
      plant second other reached last [] below := Entries.put_put ..
  rw [rewritten second other, replaced, isWritten, Graph.written_written]

/-- A second write changes the innermost of the maps that the first one made. -/
theorem value_set_of_written (past : store.IsBy before) (later : before < first)
    {front : List Scalar} {final : Scalar}
    (isKey : dottedPath key = reached ++ last :: (front ++ [final])) (whole : other.isWhole = true)
    (isWritten : wrote.settings = store.settings.written reached
      ⟨target, plant first item reached last (front ++ [final]) below⟩) :
    (wrote.set second key other).1.settings.value = (store.settings.written reached
      ⟨target, plant second other reached last (front ++ [final]) below⟩).value := by
  have planted := mapAt?_of_written opens here isWritten
  have fresh := past.fresh later (reached ++ last :: front)
  have inGraph : (target, below) ∈ graphMaps store.settings :=
    List.mem_append.mpr (Tree.mem_maps_of_mapAt? here)
  have freshBelow : ∀ found ∈ branchMaps below,
      (found.1 == .made first (reached ++ last :: front)) = false :=
    fun found inside => fresh found (graphMaps_trans inGraph inside)
  rw [set_of_planted isKey planted, isWritten, Graph.amend_written (fresh _ inGraph) fresh]
  refine Graph.value_written_congr (alike_replanted whole (fun shelved => ?_) freshBelow)
  simp [plant, Entries.put, nested, branchesWith, valueWith_grow shelved _ _ other whole]

end Again

/-- The later of two writes under a key decides. -/
theorem set_set (past : store.IsBy before) (later : before < first)
    (opens : store.settings.Opens (dottedPath key) reached target) (item : Value)
    (whole : other.isWhole = true) :
    ((store.set first key item).1.set second key other).1.settings.value =
      (store.set second key other).1.settings.value := by
  obtain ⟨last, ending, below, isKey, here, -, written⟩ := settings_set opens
  rw [written second other]
  obtain rfl | ⟨front, final, isEnding⟩ := List.eq_nil_or_concat ending
  · exact congrArg Graph.value (set_of_written opens here isKey (written first item))
  · rw [List.concat_eq_append] at isEnding
    subst isEnding
    exact value_set_of_written opens here past later isKey whole (written first item)

end Twice

/-- What holds of writing under a key at a moment and of reading: with other keys, of those that are
admitted. Values are whole: none is cut short inside itself. -/
structure Obeys (store : Store) (moment : Nat) (key : String) (admitted : String → Prop) : Prop where
  read : ∀ item : Value, item.isWhole = true → ∀ default,
    (store.set moment key item).1.get key default = item
  rewritten : ∀ (item : Value) (later : Nat) (other : Value), other.isWhole = true →
    ((store.set moment key item).1.set later key other).1.settings.value =
      (store.set later key other).1.settings.value
  kept : ∀ (item : Value) (dotted : String), ¬dottedPath dotted <+: dottedPath key →
    ¬dottedPath key <+: dottedPath dotted → admitted dotted → ∀ default,
      (store.set moment key item).1.get dotted default = store.get dotted default

/-- Writing and reading obey the laws wherever the map that a write changes is not on the way to itself, with
every key that parts from the written one where this map does not stand. Among settings in which every map
stands once they obey the laws with every key. -/
theorem set_obeys {before moment : Nat} (past : store.IsBy before) (later : before < moment)
    (key : String) :
    (∀ reached target, store.settings.Opens (dottedPath key) reached target →
      store.Obeys moment key fun dotted =>
        reached ≠ [] → store.settings.Spares target (dottedPath key) (dottedPath dotted)) ∧
    (store.settings.IsNested → store.Obeys moment key fun _ => True) := by
  have opened : ∀ reached target, store.settings.Opens (dottedPath key) reached target →
      store.Obeys moment key fun dotted =>
        reached ≠ [] → store.settings.Spares target (dottedPath key) (dottedPath dotted) := by
    intro reached target opens
    constructor
    case read => exact fun item whole => get_set opens moment whole
    case rewritten => exact fun item _ other whole => set_set past later opens item whole
    case kept =>
      exact fun item dotted noFront notLonger spares =>
        get_set_of_apart opens moment item noFront notLonger spares
  refine ⟨opened, fun nested => ?_⟩
  obtain ⟨along, last, ending, target, below, isKey, here, leads, -⟩ :=
    store.set_follows moment key .null
  have obeys := opened along target ⟨leads, ⟨below, here⟩, nested.avoids here⟩
  refine { obeys with kept := fun item dotted noFront notLonger _ => ?_ }
  apply obeys.kept item dotted noFront notLonger
  intro _
  apply nested.spares here
  · rw [isKey]
    exact List.prefix_append ..
  · exact fun _ member _ otherMember => dottedPath_apart member otherMember

end Laws

/-! The settings after a load from no files, in which every map stands once. -/

namespace Level

/-- The settings that a fresh store loads are nested maps. -/
theorem isNested_loaded : (fresh.load 1 {}).1.settings.IsNested := by
  rw [load_fresh]
  exact ⟨rfl, by decide +kernel⟩

/-- To set the level of the package obeys the laws. -/
theorem set_obeys_level : (fresh.load 1 {}).1.IsBy 1 ∧ 1 < 2 ∧
    (fresh.load 1 {}).1.settings.IsNested ∧
    (fresh.load 1 {}).1.Obeys 2 "logging.level" fun _ => True := by
  have reachable : Reachable "config" 1 (fresh.load 1 {}).1 := .load .fresh (by decide) {}
  have obeys := (set_obeys reachable.isBy (by decide : 1 < 2) "logging.level").2 isNested_loaded
  exact ⟨reachable.isBy, by decide, isNested_loaded, obeys⟩

end Level

/-! A file that puts one map in two places, and another one into itself. -/

namespace Aliased

/-- A fresh store. -/
def store : Store := { folder := "config" }

/-- The two maps, by their anchors `x` and `y`:

    a: &x {p: 1}
    b: *x
    d: &y {d: *y}
-/
def bytes : List UInt8 :=
  [ 0x61, 0x3A, 0x20, 0x26, 0x78, 0x20, 0x7B, 0x70, 0x3A, 0x20, 0x31, 0x7D, 0x0A,
    0x62, 0x3A, 0x20, 0x2A, 0x78, 0x0A,
    0x64, 0x3A, 0x20, 0x26, 0x79, 0x20, 0x7B, 0x64, 0x3A, 0x20, 0x2A, 0x79, 0x7D, 0x0A ]

/-- The file alone. -/
def surroundings : Surroundings where
  files := Files.place [] "config/default.yaml" (.bytes bytes)

/-- The file over the built-in settings. -/
def merged : Except Fault Layers :=
  (readContent .yaml ⟨1, 0⟩ "config/default.yaml" (.bytes bytes)).bind fun defaultFile =>
    (addLayer 1 "default_config" defaultFile { branches := store.builtin }).result

/-- What the layers merge into. -/
theorem assemble_eq : (store.assemble 1 surroundings).result = merged := by
  have unset : ∀ pair ∈ variableKeys, Entries.get? pair.1 surroundings.environment = none :=
    fun _ _ => rfl
  have ofDefaults : store.readDefaults 1 surroundings =
      readContent .yaml ⟨1, 0⟩ "config/default.yaml" (.bytes bytes) := readLayer_default rfl rfl rfl
  have ofLocal : store.readLocal 1 surroundings = .ok (.ofValue (.map [])) :=
    readLayer_of_missing ((look_local rfl _).trans (by decide +kernel))
  rw [assemble_of_unset unset, ofDefaults, ofLocal, merged]
  cases readContent .yaml ⟨1, 0⟩ "config/default.yaml" (.bytes bytes) with
  | error fault => rfl
  | ok defaultFile =>
    simp only [Except.bind]
    cases (addLayer 1 "default_config" defaultFile { branches := store.builtin }).result <;> rfl

/-- The store with the file loaded. -/
def loaded : Store := (store.load 1 surroundings).1

/-- The settings in force are the merged layers. -/
theorem loaded_eq : loaded = match merged with
    | .ok layers => { store with current := layers.branches, shelf := layers.shelf }
    | .error _ => store := by
  cases known : merged with
  | error fault => exact load_of_error (assemble_eq.trans known)
  | ok layers => exact load_of_ok (assemble_eq.trans known)

/-- The whole number that a value is. -/
def number? : Value → Option Int
  | .int number => some number
  | _ => none

/-- What counts as a whole number is one. -/
theorem eq_int_of_number? {value : Value} {number : Int} (isNumber : number? value = some number) :
    value = .int number := by
  unfold number? at isNumber
  split at isNumber
  · rw [Option.some.inj isNumber]
  · contradiction

/-- A write under the one key shows under the other, which parts from it; and what is written into the map
inside itself is not found. -/
theorem set_disobeyed :
    (¬dottedPath "b.p" <+: dottedPath "a.p" ∧ ¬dottedPath "a.p" <+: dottedPath "b.p") ∧
      loaded.get "b.p" .null = .int 1 ∧
      (loaded.set 2 "a.p" (.int 2)).1.get "b.p" .null = .int 2 ∧
      (loaded.set 2 "d.d.d" (.int 2)).1.get "d.d.d" (.int 3) = .int 3 := by
  have paths : dottedPath "a.p" = [.text "a", .text "p"] ∧
      dottedPath "b.p" = [.text "b", .text "p"] := ⟨by rfl, by rfl⟩
  refine ⟨?_, ?_, ?_, ?_⟩
  · simp [paths]
  · apply eq_int_of_number?
    rw [loaded_eq]
    decide +kernel
  · apply eq_int_of_number?
    rw [loaded_eq]
    decide +kernel
  · apply eq_int_of_number?
    rw [loaded_eq]
    decide +kernel

end Aliased

end Settings.Store

end Switchboard
