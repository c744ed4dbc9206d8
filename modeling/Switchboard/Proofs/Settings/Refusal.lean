import Switchboard.Proofs.Settings.Layering

/-!
# What a load that fails leaves behind

A load that fails while it reads or merges leaves the store as it was, and its fault is no refusal
(`assemble_fault`). Settings that are merged and then refused are in force all the same: the store
holds what the message complains of.
-/

namespace Switchboard.Settings

/-- Whether a fault says that settings which were merged break a rule. -/
def Fault.isRefusal : Fault → Bool
  | .refused _ | .unwritable _ => true
  | .isDirectory _ | .nameTooLong _ | .malformedFile _ | .undecodable | .tooDeep _ | .endless
  | .scalar _ | .number _ | .layer _ => false

section Reading

variable {occasion : Occasion} {path : String} {fault : Fault}

/-- To read a text is not refused by the check. -/
theorem Format.read_fault {format : Format} {bytes : List UInt8}
    (failed : format.read occasion path bytes = .error fault) : fault.isRefusal = false := by
  cases format with
  | yaml =>
    cases read : Yaml.read (.ofBytes bytes) with
    | ok graph => simp [Format.read, read, Except.map] at failed
    | error found =>
      obtain rfl : Fault.ofYaml path found = fault := by
        simpa [Format.read, read, Except.map] using failed
      cases found <;> rfl
  | json =>
    simp only [Format.read] at failed
    split at failed
    next => exact (Except.error.inj failed) ▸ rfl
    next => contradiction
    all_goals exact (Except.error.inj failed) ▸ rfl

/-- To read a content is not refused by the check. -/
theorem readContent_fault {format : Format} {content : Content}
    (failed : readContent format occasion path content = .error fault) :
    fault.isRefusal = false := by
  cases content with
  | directory => exact (Except.error.inj failed) ▸ rfl
  | value value => contradiction
  | bytes bytes =>
    cases read : format.read occasion path bytes with
    | ok graph => simp [readContent, read, Except.map] at failed
    | error found =>
      obtain rfl : found = fault := by simpa [readContent, read, Except.map] using failed
      exact format.read_fault read

/-- To read a file is not refused by the check. -/
theorem readLayer_fault {files : Files}
    (failed : (readLayer files occasion path).result = .error fault) : fault.isRefusal = false := by
  cases sight : files.look (Path.plain path) with
  | missing | blocked => simp [readLayer, sight, Traced.ok] at failed
  | nameTooLong | folder _ =>
    simp only [readLayer, sight, Traced.result_fail] at failed
    exact (Except.error.inj failed) ▸ rfl
  | file place =>
    simp only [readLayer, sight] at failed
    cases format? : Format.ofPath? (Path.plain path) with
    | none => simp [format?, Traced.bind_eq_error_iff] at failed
    | some format =>
      simp only [format?, Traced.result_lift] at failed
      cases found : Entries.get? place files with
      | none => simp [found] at failed
      | some content => exact readContent_fault (by simpa [found] using failed)

/-- To read variables is not refused by the check. -/
theorem addVariables_fault {environment : Environment} {settings : Section}
    {keys : List (String × String)}
    (failed : (addVariables environment settings keys).result = .error fault) :
    fault.isRefusal = false := by
  induction keys generalizing settings with
  | nil => contradiction
  | cons pair rest ih =>
    unfold addVariables at failed
    split at failed
    next => exact ih failed
    next text _ =>
      split at failed
      next number _ => exact (Except.error.inj failed) ▸ rfl
      next => exact ih failed
      next =>
        simp only [Traced.bind_eq_error_iff, Traced.result_log] at failed
        obtain none | ⟨_, _, last⟩ := failed
        · contradiction
        · exact ih last

end Reading

namespace Store

section Failing

variable {store : Store} {moment : Nat} {surroundings : Surroundings} {name : String}
  {layer : Graph} {below layers : Layers} {fault : Fault}

/-- To add a layer is not refused by the check. -/
theorem addLayer_fault (failed : (addLayer moment name layer below).result = .error fault) :
    fault.isRefusal = false := by
  unfold addLayer at failed
  split at failed
  next =>
    rw [Traced.bind_eq_error_iff] at failed
    obtain noMap | ⟨branches, _, unmerged⟩ := failed
    · cases isMap : layerBranches layer with
      | ok branches => simp [isMap] at noMap
      | error misuse =>
        obtain rfl : Fault.layer misuse = fault := by simpa [isMap] using noMap
        rfl
    · cases merged : mergeBranches? (layer.shelf ++ below.shelf) moment below.branches branches with
      | none =>
        obtain rfl : Fault.endless = fault := by simpa [merged] using unmerged
        rfl
      | some found => simp [merged, Traced.bind_eq_error_iff] at unmerged
  next => contradiction

/-- No layer is refused while it is read or merged. -/
theorem assemble_fault (failed : (store.assemble moment surroundings).result = .error fault) :
    fault.isRefusal = false := by
  simp only [assemble, Traced.bind_eq_error_iff] at failed
  obtain none | ⟨_, _, first | ⟨_, _, second | ⟨_, _, third | ⟨_, _, fourth | ⟨_, _, fifth |
    ⟨_, _, sixth | ⟨_, _, last⟩⟩⟩⟩⟩⟩⟩ := failed
  · contradiction
  · exact addLayer_fault first
  · exact readLayer_fault second
  · exact addLayer_fault third
  · exact readLayer_fault fourth
  · exact addLayer_fault fifth
  · exact addVariables_fault sixth
  · exact addLayer_fault last

/-- The rules can be held against settings that are a map, and their sections be missed. -/
theorem missingSections_of_map {config : Graph} {found : Origin × Branches}
    (isMap : config.root.map? config.shelf = some found) (names : List String) :
    ∃ missing, missingSections config names = .ok missing := by
  induction names with
  | nil => exact ⟨[], rfl⟩
  | cons name rest ih =>
    obtain ⟨others, known⟩ := ih
    exact ⟨_, by simp only [missingSections, hasSection, isMap, known]; rfl⟩

/-- Settings that are a map can be checked. -/
theorem problems_of_map {config : Graph} {found : Origin × Branches}
    (isMap : config.root.map? config.shelf = some found) :
    ∃ reported, problems config = .ok reported := by
  obtain ⟨missing, known⟩ := missingSections_of_map isMap requiredSections
  exact ⟨_, by simp only [problems, known]; rfl⟩

/-- The fault of settings with some problems. Where one of these cannot be written, that is the fault. -/
def refusal (reported : List Problem) : Fault :=
  match reported.findSome? Problem.obstacle? with
  | some obstacle => .unwritable obstacle
  | none => .refused (reported.map Problem.message)

/-- Settings are refused for the problems that they have; where one of them cannot be written, the
fault does not tell them. -/
theorem validate_fault {config : Graph} {found : Origin × Branches}
    (isMap : config.root.map? config.shelf = some found) (failed : validate config = .error fault) :
    ∃ reported, problems config = .ok reported ∧ reported ≠ [] ∧ fault = refusal reported := by
  obtain ⟨reported, known⟩ := problems_of_map isMap
  refine ⟨reported, known, ?_⟩
  simp only [validate, known, bind, Except.bind, mapError_ok] at failed
  cases reported with
  | nil => contradiction
  | cons first rest =>
    refine ⟨List.cons_ne_nil _ _, ?_⟩
    unfold refusal
    cases unwritable : (first :: rest).findSome? Problem.obstacle? with
    | some obstacle =>
      simp only [unwritable] at failed
      exact (Except.error.inj failed).symm
    | none =>
      simp only [unwritable] at failed
      exact (Except.error.inj failed).symm

/-- A load that fails otherwise than by a refusal leaves the store as it was. Settings that are
refused are in force: they are the ones that were merged, and they have the problems that are
told. -/
theorem load_failed (failed : (store.load moment surroundings).2.result = .error fault) :
    (fault.isRefusal = false → (store.load moment surroundings).1 = store) ∧
    (fault.isRefusal = true → ∃ layers reported,
      (store.assemble moment surroundings).result = .ok layers ∧
      (store.load moment surroundings).1 =
        { store with current := layers.branches, shelf := layers.shelf } ∧
      problems (store.load moment surroundings).1.settings = .ok reported ∧ reported ≠ [] ∧
      fault = refusal reported) := by
  rw [load_result] at failed
  cases assembled : (store.assemble moment surroundings).result with
  | error early =>
    obtain rfl : early = fault := by simpa [assembled, Except.bind] using failed
    refine ⟨fun _ => load_of_error assembled, fun isRefusal => ?_⟩
    simp [assemble_fault assembled] at isRefusal
  | ok layers =>
    have checked : validate layers.graph = .error fault := by
      simpa [assembled, Except.bind] using failed
    obtain ⟨reported, known, some, told⟩ := validate_fault (Tree.map?_map ..) checked
    have loaded := load_of_ok assembled
    -- What the check answers with is a refusal, whether it can be written or not.
    have isRefusal : fault.isRefusal = true := by
      rw [told, refusal]
      split <;> rfl
    refine ⟨fun other => ?_, fun _ => ⟨layers, reported, rfl, loaded, ?_, some, told⟩⟩
    · simp [isRefusal] at other
    · rw [loaded]
      exact known

end Failing

/-! Settings in force, and a variable that asks for a level that there is not. -/

namespace Loud

/-- A store that was loaded once. -/
def store : Store := (({ folder := "config" } : Store).load 1 {}).1

/-- A variable with a level that there is not. -/
def surroundings : Surroundings := { environment := [("CALLROUTE_LOG_LEVEL", "LOUD")] }

/-- The store has the built-in settings in force. -/
theorem store_eq : store =
    { folder := "config", current := growBranches (.made 0) [] Settings.builtin } :=
  load_of_ok (assemble_of_nothing (.of_no_files rfl 1 rfl))

/-- The variable's level gets into the layers and is refused. -/
theorem merged : ∃ layers, (store.assemble 2 surroundings).result = .ok layers ∧
    validate layers.graph = .error (.refused ["Invalid log level: LOUD"]) ∧
    layers.graph.get "logging.level" .null = .text "LOUD" := by
  have folder : store.folder = "config" := by rw [store_eq]
  have reads : store.Reads 2 surroundings (.ofValue (.map [])) (.ofValue (.map []))
      [(.text "logging", .record [("level", .text "LOUD")])] := .of_no_files folder 2 rfl
  rw [store_eq] at reads ⊢
  exact ⟨_, assemble_eq_ok_iff.mpr ⟨_, _, _, _, _, _, rfl, reads, rfl, rfl, rfl⟩, by rfl, by rfl⟩

/-- The load is refused. -/
theorem refused :
    (store.load 2 surroundings).2.result = .error (.refused ["Invalid log level: LOUD"]) := by
  obtain ⟨layers, assembled, checked, _⟩ := merged
  rw [load_result, assembled]
  exact checked

/-- The level that was refused is in force after the load. -/
theorem load_failed_loud : ∃ layers reported,
    (store.assemble 2 surroundings).result = .ok layers ∧
      (store.load 2 surroundings).1 =
        { store with current := layers.branches, shelf := layers.shelf } ∧
      problems (store.load 2 surroundings).1.settings = .ok reported ∧ reported ≠ [] := by
  obtain ⟨layers, reported, assembled, loaded, known, some, _⟩ := (load_failed refused).2 rfl
  exact ⟨layers, reported, assembled, loaded, known, some⟩

/-- A level that is refused takes the place of the one that was in force. -/
theorem refused_in_force :
    store.get "logging.level" .null = .text "INFO" ∧
      (store.load 2 surroundings).2.result = .error (.refused ["Invalid log level: LOUD"]) ∧
      (store.load 2 surroundings).1.get "logging.level" .null = .text "LOUD" := by
  refine ⟨?_, refused, ?_⟩
  · rw [store_eq]
    rfl
  · obtain ⟨layers, assembled, _, loud⟩ := merged
    rw [load_of_ok assembled]
    exact loud

end Loud

end Store

end Switchboard.Settings
