import Switchboard.Proofs.Settings.Sharing

/-!
# What a load forgets

A load builds on the built-in settings, so it forgets whatever was written elsewhere. Writes into
maps that the built-in settings do not have leave these as they were when the store was made, and
every load then gives what it gives to a new store.

A map of the built-in settings that no other layer touches is in force itself. What is written into
such a map stays, however often the settings are loaded.
-/

namespace Switchboard.Settings.Store

/-- The built-in settings as a store has them when it is made. -/
def originalBuiltin : Branches := growBranches (.made 0) [] Settings.builtin

/-- Whether a write, if it goes into a map, goes into none of the built-in settings. -/
def Spares (store : Store) (moment : Nat) (dotted : String) (item : Value) : Prop :=
  ∀ edit, (store.set moment dotted item).2 = some edit →
    ∀ found ∈ branchMaps store.builtin, (found.1 == edit.target) = false

/-- The stores of a folder that loads lead to, and writes that spare the built-in settings. -/
inductive Sparing (folder : String) : Nat → Store → Prop
  | fresh : Sparing folder 0 { folder }
  | load {before moment : Nat} {store : Store} (known : Sparing folder before store)
      (later : before < moment) (surroundings : Surroundings) :
      Sparing folder moment (store.load moment surroundings).1
  | set {before moment : Nat} {store : Store} (known : Sparing folder before store)
      (later : before < moment) {dotted : String} {item : Value}
      (spares : store.Spares moment dotted item) :
      Sparing folder moment (store.set moment dotted item).1

section Forgetting

variable {store other : Store} {folder : String} {before moment : Nat} {surroundings : Surroundings}

/-- A load never changes the built-in settings. -/
theorem load_builtin (store : Store) (moment : Nat) (surroundings : Surroundings) :
    (store.load moment surroundings).1.folder = store.folder ∧
      (store.load moment surroundings).1.builtin = store.builtin := by
  cases assembled : (store.assemble moment surroundings).result with
  | error fault => simp [load_of_error assembled]
  | ok layers => simp [load_of_ok assembled]

/-- A write that spares the built-in settings leaves them alone. -/
theorem set_builtin {dotted : String} {item : Value} (spares : store.Spares moment dotted item) :
    (store.set moment dotted item).1.folder = store.folder ∧
      (store.set moment dotted item).1.builtin = store.builtin := by
  unfold Spares at spares
  unfold set write at spares ⊢
  cases change : writeAt store.shelf (plant moment item) (dottedPath dotted) store.current with
  | top branches => exact ⟨rfl, rfl⟩
  | inner edit =>
    simp only [change, Option.some.injEq, forall_eq'] at spares
    exact ⟨rfl, amendBranches_of_absent spares⟩

/-- What is merged depends on the folder and on the built-in settings only. -/
theorem assemble_congr (sameFolder : store.folder = other.folder)
    (sameBuiltin : store.builtin = other.builtin) :
    store.assemble moment surroundings = other.assemble moment surroundings := by
  simp only [assemble, filePath, sameFolder, sameBuiltin]

/-- The built-in settings are what they were, as long as all writes spare them. -/
theorem Sparing.builtin_eq (sparing : Sparing folder before store) :
    store.folder = folder ∧ store.builtin = originalBuiltin := by
  induction sparing with
  | fresh => exact ⟨rfl, rfl⟩
  | load _ _ _ ih =>
    obtain ⟨sameFolder, sameBuiltin⟩ := load_builtin _ _ _
    exact ⟨sameFolder.trans ih.1, sameBuiltin.trans ih.2⟩
  | set _ _ spares ih =>
    obtain ⟨sameFolder, sameBuiltin⟩ := set_builtin spares
    exact ⟨sameFolder.trans ih.1, sameBuiltin.trans ih.2⟩

/-- As long as all writes spare the built-in settings, these stay the original ones, and a load that
gets through reading and merging puts in force what a new store would have in force: all writes are
forgotten. -/
theorem Sparing.load_forgets (sparing : Sparing folder before store) :
    store.builtin = originalBuiltin ∧
      ∀ moment surroundings layers, (store.assemble moment surroundings).result = .ok layers →
        (store.load moment surroundings).1 =
          (({ folder } : Store).load moment surroundings).1 := by
  obtain ⟨sameFolder, sameBuiltin⟩ := sparing.builtin_eq
  refine ⟨sameBuiltin, fun moment surroundings layers assembled => ?_⟩
  have new : (({ folder } : Store).assemble moment surroundings).result = .ok layers := by
    rw [← assemble_congr sameFolder sameBuiltin, assembled]
  rw [load_of_ok assembled, load_of_ok new]
  cases store
  simp_all [originalBuiltin]

end Forgetting

/-! A level that is written after it was loaded from a variable, and after it was not. -/

namespace Level

/-- A fresh store. -/
def fresh : Store := { folder := "config" }

/-- A variable with a level. -/
def environment : Environment := [("CALLROUTE_LOG_LEVEL", "ERROR")]

/-- Here the section is merged, and what is in force is a map of its own. -/
theorem merged : ∃ layers, (fresh.assemble 1 { environment }).result = .ok layers ∧
    layers.shelf = [] ∧ ∃ below, mapUnder? [] (.text "logging") layers.branches =
      some (.made 1 [.text "logging"], below) := by
  have reads : fresh.Reads 1 { environment } (.ofValue (.map [])) (.ofValue (.map []))
      [(.text "logging", .record [("level", .text "ERROR")])] := .of_no_files rfl 1 rfl
  exact ⟨_, assemble_eq_ok_iff.mpr ⟨_, _, _, _, _, _, rfl, reads, rfl, rfl, rfl⟩, rfl, _, rfl⟩

/-- The level of the variable stands in a section of its own, so that to set it spares the built-in
one. -/
theorem spares :
    (fresh.load 1 { environment }).1.Spares 2 "logging.level" (.text "DEBUG") := by
  obtain ⟨layers, assembled, shelf, below, under⟩ := merged
  have path : dottedPath "logging.level" = [.text "logging", .text "level"] := by rfl
  rw [load_of_ok assembled]
  intro edit written found member
  -- The write is into the merged map, and the built-in ones were made before.
  have target : .made 1 [.text "logging"] = edit.target := by
    simp only [set, write, path, writeAt, shelf, under, editBelow, Option.some.injEq] at written
    rw [← written]
  rw [← target]
  exact branchMaps_grow (fun origin => (origin == .made 1 [.text "logging"]) = false) (.made 0)
    (fun _ => by simp [BEq.beq, instBEqOrigin.beq]) [] Settings.builtin found member

/-- The store after the level was set. -/
def spared : Store := ((fresh.load 1 { environment }).1.set 2 "logging.level" (.text "DEBUG")).1

/-- All writes spared the built-in settings. -/
theorem sparing : Sparing "config" 2 spared :=
  .set (.load .fresh (by decide) { environment }) (by decide) spares

/-- The level that is written there is gone with the next load. -/
theorem load_forgets_level : (spared.load 3 {}).1 = (fresh.load 3 {}).1 := by
  have assembled : (spared.assemble 3 {}).result = .ok { branches := spared.builtin } :=
    assemble_of_nothing (.of_no_files sparing.builtin_eq.1 3 rfl)
  exact sparing.load_forgets.2 3 {} _ assembled

/-- A fresh store loads the built-in settings. -/
theorem load_fresh : (fresh.load 1 {}).1 = { fresh with current := originalBuiltin } :=
  load_of_ok (assemble_of_nothing (.of_no_files rfl 1 rfl))

/-- The store after a level was set in the built-in section. -/
def written : Store := ((fresh.load 1 {}).1.set 2 "logging.level" (.text "DEBUG")).1

/-- Here the section in force is the built-in one. -/
theorem written_eq : written =
    (({ fresh with current := originalBuiltin } : Store).set 2 "logging.level"
      (.text "DEBUG")).1 := by
  rw [written, load_fresh]

/-- The level that is written here outlasts the next load. -/
theorem written_outlasts_load :
    (written.load 3 {}).2.result = .ok () ∧
      (written.load 3 {}).1.get "logging.level" .null = .text "DEBUG" ∧
      (fresh.load 3 {}).1.get "logging.level" .null = .text "INFO" := by
  have folder : written.folder = "config" := by
    rw [written_eq]
    rfl
  have again : (written.assemble 3 {}).result = .ok { branches := written.builtin } :=
    assemble_of_nothing (.of_no_files folder 3 rfl)
  have new : (fresh.assemble 3 {}).result = .ok { branches := originalBuiltin } :=
    assemble_of_nothing (.of_no_files rfl 3 rfl)
  refine ⟨?_, ?_, ?_⟩
  · rw [load_result, again, written_eq]
    rfl
  · rw [load_of_ok again, written_eq]
    rfl
  · rw [load_of_ok new]
    rfl

end Level

end Switchboard.Settings.Store
