import Switchboard.Proofs.Settings.Acceptance
import Switchboard.Proofs.Settings.Refusal

/-!
# The store that a process shares

The store of the process comes into being with the first demand for it, and every later demand is
answered with that store, whatever it asks for. Only the first demand loads it, so its fate decides
about all later ones: they are handed a loaded store exactly where the first load ended well. Where
it failed, the first demand is told so, and the later ones are handed a store that no load has made.
-/

namespace Switchboard

namespace Settings.Store

/-- Whether a store is as some load that ended well has left it. -/
def IsLoaded (store : Store) : Prop :=
  ∃ (before : Store) (moment : Nat) (surroundings : Surroundings),
    (before.load moment surroundings).2.result = .ok () ∧
      (before.load moment surroundings).1 = store

variable {store : Store} {moment : Nat} {surroundings : Surroundings}

/-- The settings of a store that is loaded are not refused. -/
theorem IsLoaded.validate (loaded : store.IsLoaded) : validate store.settings = .ok () := by
  obtain ⟨before, moment, surroundings, ended, rfl⟩ := loaded
  obtain ⟨layers, assembled, accepted⟩ := load_eq_ok_iff.mp ended
  rw [settings_load_of_ok assembled]
  exact accepted

/-- Settings without any section are refused. -/
theorem validate_empty (folder : String) :
    Settings.validate ({ folder } : Store).settings ≠ .ok () := by
  intro accepted
  have sections := (validate_eq_ok_iff.mp accepted).sections
  have missing : missingSections ({ folder } : Store).settings requiredSections =
      .ok (requiredSections.map .missingSection) := by
    rfl
  rw [missing] at sections
  exact absurd (Except.ok.inj sections) (List.cons_ne_nil _ _)

/-- A load that fails on a new store leaves one that no load has made: if the settings were not
even merged there are none in force, and otherwise they are refused. -/
theorem load_new_isLoaded_iff {folder : String} :
    (({ folder } : Store).load moment surroundings).1.IsLoaded ↔
      (({ folder } : Store).load moment surroundings).2.result = .ok () := by
  refine ⟨fun loaded => ?_, fun ended => ⟨_, moment, surroundings, ended, rfl⟩⟩
  have accepted := loaded.validate
  cases assembled : (({ folder } : Store).assemble moment surroundings).result with
  | error fault =>
    rw [load_of_error assembled] at accepted
    exact absurd accepted (validate_empty folder)
  | ok layers =>
    rw [settings_load_of_ok assembled] at accepted
    exact load_eq_ok_iff.mpr ⟨layers, assembled, accepted⟩

end Settings.Store

namespace Session

/-- A demand for the store of the process, at a moment and in surroundings of its own. -/
structure Demand where
  moment : Nat
  folder : String
  surroundings : Settings.Surroundings := {}

/-- What a new store of the demanded folder comes to when it is loaded. -/
def Demand.load (demand : Demand) : Settings.Store × Traced Settings.Fault Unit :=
  ({ folder := demand.folder } : Settings.Store).load demand.moment demand.surroundings

/-- The session after a demand, and the store that is handed out. -/
def meet (session : Session) (demand : Demand) : Session × Except Settings.Fault Settings.Store :=
  let current := { session with moment := demand.moment, surroundings := demand.surroundings }
  let (next, traced) := current.useProcessStore demand.folder
  (next, traced.result.map fun _ => next.currentStore)

/-- What is handed out for one demand after the other. -/
def meetAll (session : Session) : List Demand → List (Except Settings.Fault Settings.Store)
  | [] => []
  | demand :: later => (session.meet demand).2 :: (session.meet demand).1.meetAll later

variable {session : Session}

/-- A store that is known is handed out as it is. -/
theorem meet_of_known {store : Settings.Store} (known : session.processStore = some store)
    (demand : Demand) :
    (session.meet demand).2 = .ok store ∧ (session.meet demand).1.processStore = some store := by
  simp [meet, useProcessStore, known, currentStore, Traced.ok, Except.map]

/-- The first demand makes the store and hands it out if its load ends well; it is the store of
the process in either case. -/
theorem meet_of_unknown (unknown : session.processStore = none) (demand : Demand) :
    (session.meet demand).2 = demand.load.2.result.map (fun _ => demand.load.1) ∧
      (session.meet demand).1.processStore = some demand.load.1 := by
  refine ⟨?_, by simp [meet, useProcessStore, unknown, Demand.load]⟩
  cases ended : demand.load.2.result <;>
    simp only [Demand.load] at ended <;>
    simp [meet, useProcessStore, unknown, Traced.result_bind, ended, Except.bind, Except.map,
      Except.toBool, currentStore, Demand.load]

/-- Once there is a store of the process, every demand is met with it. -/
theorem meetAll_of_known {store : Settings.Store} (known : session.processStore = some store)
    (demands : List Demand) : session.meetAll demands = demands.map fun _ => .ok store := by
  induction demands generalizing session with
  | nil => rfl
  | cons demand later ih =>
    obtain ⟨handed, kept⟩ := meet_of_known known demand
    rw [meetAll, handed, ih kept, List.map_cons]

/-- The first demand is answered as its load ends, and all later ones with its store. -/
theorem meetAll_of_unknown (unknown : session.processStore = none) (first : Demand)
    (later : List Demand) : session.meetAll (first :: later) =
      (first.load.2.result.map fun _ => first.load.1) :: later.map fun _ => .ok first.load.1 := by
  obtain ⟨handed, kept⟩ := meet_of_unknown unknown first
  rw [meetAll, handed, meetAll_of_known kept]

/-- The store of a demand counts as loaded exactly where its load succeeds. -/
theorem Demand.load_isLoaded_iff (demand : Demand) :
    demand.load.1.IsLoaded ↔ demand.load.2.result = .ok () :=
  Settings.Store.load_new_isLoaded_iff

/-- Whatever is demanded, and whatever surrounds the demands: the store that the first one makes is
the one that all are handed. So every store that is handed out is loaded, unless the first load
fails and something is demanded afterwards. -/
theorem meetAll_isLoaded_iff (unknown : session.processStore = none) (first : Demand)
    (later : List Demand) :
    session.meetAll (first :: later) =
        (first.load.2.result.map fun _ => first.load.1) :: later.map (fun _ => .ok first.load.1) ∧
      ((∀ store, .ok store ∈ session.meetAll (first :: later) → store.IsLoaded) ↔
        first.load.2.result = .ok () ∨ later = []) := by
  refine ⟨meetAll_of_unknown unknown first later, ?_⟩
  rw [meetAll_of_unknown unknown, ← first.load_isLoaded_iff]
  constructor
  · intro allLoaded
    cases later with
    | nil => exact .inr rfl
    | cons next rest => exact .inl (allLoaded first.load.1 (by simp))
  · intro fate store member
    rcases List.mem_cons.mp member with handedFirst | handedLater
    · cases ended : first.load.2.result with
      | error fault => simp [ended, Except.map] at handedFirst
      | ok done =>
        obtain rfl : store = first.load.1 := by simpa [ended, Except.map] using handedFirst
        exact first.load_isLoaded_iff.mpr ended
    · obtain ⟨demand, isLater, same⟩ := List.mem_map.mp handedLater
      obtain rfl : first.load.1 = store := Except.ok.inj same
      exact fate.resolve_right (List.ne_nil_of_mem isLater)

/-! Demands while a variable asks for a level that there is not, and without it. -/

namespace Shared

/-- A demand with a variable for a level that there is not. -/
def loud : Demand where
  moment := 1
  folder := "config"
  surroundings := { environment := [("CALLROUTE_LOG_LEVEL", "LOUD")] }

/-- A demand without variables. -/
def calm : Demand where
  moment := 2
  folder := "config"

/-- The load without variables succeeds. -/
theorem calm_ends : calm.load.2.result = .ok () :=
  Settings.Store.load_eq_ok_iff.mpr
    ⟨_, Settings.Store.assemble_of_nothing (.of_no_files rfl 2 rfl), by rfl⟩

/-- The load with the variable is refused. -/
theorem loud_fails :
    loud.load.2.result = .error (.refused ["Invalid log level: LOUD"]) := by
  have reads : ({ folder := loud.folder } : Settings.Store).Reads 1 loud.surroundings
      (.ofValue (.map [])) (.ofValue (.map []))
      [(.text "logging", .record [("level", .text "LOUD")])] := .of_no_files rfl 1 rfl
  have assembled : (({ folder := loud.folder } : Settings.Store).assemble 1
      loud.surroundings).result = .ok _ :=
    Settings.Store.assemble_eq_ok_iff.mpr ⟨_, _, _, _, _, _, rfl, reads, rfl, rfl, rfl⟩
  rw [Demand.load, Settings.Store.load_result]
  exact (congrArg (Except.bind · _) assembled).trans (by rfl)

/-- The store is loaded in peace, and stays the one that is shared. -/
theorem meetAll_isLoaded_calm :
    ({} : Session).processStore = none ∧
      ∀ store, .ok store ∈ ({} : Session).meetAll [calm, loud] → store.IsLoaded :=
  ⟨rfl, ((meetAll_isLoaded_iff rfl calm [loud]).2).mpr (.inl calm_ends)⟩

/-- The first demand is refused, and the same demand is then handed the store that was refused. -/
theorem meetAll_hands_out_refused :
    ({} : Session).meetAll [loud, { loud with moment := 2 }] =
        [.error (.refused ["Invalid log level: LOUD"]), .ok loud.load.1] ∧
      ¬loud.load.1.IsLoaded := by
  rw [meetAll_of_unknown rfl, loud.load_isLoaded_iff, loud_fails]
  exact ⟨rfl, by simp⟩

end Shared

end Session

end Switchboard
