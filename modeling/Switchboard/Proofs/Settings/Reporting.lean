import Switchboard.Proofs.Settings.Acceptance
import Switchboard.Proofs.Settings.Refusal

/-!
# Which faults are reported as faults of the configuration

A load reports a file that cannot be opened, a text that breaks the rules of its format, and
settings that break the rules of the check. Other faults of the same files are not reported as such:
bytes that are no text, scalars that are not made, nesting that is too deep, a document that is
neither a map nor counts as false, maps without end, and a value that cannot be written into the
message that tells of it, because a number in it is too long or it is nested too deeply.
`load_reports_iff` tells the files on which a load reports whatever it fails on.
-/

namespace Switchboard.Settings

/-- Whether a fault is reported as one of the configuration. -/
def Fault.isConfiguration : Fault → Bool
  | .isDirectory _ | .malformedFile _ | .refused _ => true
  | .nameTooLong _ | .undecodable | .tooDeep _ | .endless | .scalar _ | .number _ | .layer _
  | .unwritable _ => false

/-- Whether an outcome is reported as a fault of the configuration, if it is a fault at all. -/
def Reports {Result : Type} (outcome : Except Fault Result) : Prop :=
  ∀ fault, outcome = .error fault → fault.isConfiguration = true

/-- What reports does not fail with another fault. -/
theorem Reports.ne_error {Result : Type} {outcome : Except Fault Result} (reports : Reports outcome)
    {fault : Fault} (other : fault.isConfiguration = false) : outcome ≠ .error fault := by
  intro failed
  simp [reports fault failed] at other

/-- Two steps report where each does, the second one as far as it is taken. -/
theorem reports_bind_iff {First Next : Type} {first : Except Fault First}
    {next : First → Except Fault Next} : Reports (first.bind next) ↔
      Reports first ∧ ∀ result, first = .ok result → Reports (next result) := by
  cases first <;> simp [Reports, Except.bind]

/-- Whether a document is a map, or says nothing because it counts as false. -/
def IsLayer (document : Graph) : Prop := document.isTruthy = true → document.kind = .map

/-- Whether a file gives a layer, or a fault that is reported. -/
def Usable (read : Except Fault Graph) : Prop :=
  Reports read ∧ ∀ document, read = .ok document → IsLayer document

namespace Store

/-- What the files of a store give. -/
def readDefaults (store : Store) (moment : Nat) (surroundings : Surroundings) :
    Except Fault Graph :=
  (readLayer surroundings.files ⟨moment, 0⟩ (store.filePath "default.yaml")).result

/-- What a load reads of the local file. -/
def readLocal (store : Store) (moment : Nat) (surroundings : Surroundings) : Except Fault Graph :=
  (readLayer surroundings.files ⟨moment, 1⟩ (store.filePath "config.yaml")).result

section Loading

variable {store : Store} {moment : Nat} {surroundings : Surroundings} {name : String}
  {layer : Graph} {below layers : Layers} {fault : Fault}

/-- Only merging without end keeps a layer from being added. -/
theorem addLayer_fault_of_isLayer (isLayer : IsLayer layer)
    (failed : (addLayer moment name layer below).result = .error fault) : fault = .endless := by
  cases truthy : layer.isTruthy with
  | false => simp [addLayer, truthy, Traced.ok] at failed
  | true =>
    by_cases isEndless : fault = .endless
    · exact isEndless
    · have ends : (addLayer moment name layer below).result ≠ .error .endless := by
        simpa [failed] using isEndless
      obtain ⟨above, added⟩ := addLayer_ends (isLayer truthy) ends
      simp [added] at failed

/-- A document that is no layer cannot be added. -/
theorem addLayer_of_not_isLayer (noLayer : ¬IsLayer layer) :
    (addLayer moment name layer below).result =
      .error (.layer (.lacksOperation layer.kind "items")) := by
  obtain ⟨truthy, noMap⟩ : layer.isTruthy = true ∧ layer.kind ≠ .map := by
    simpa [IsLayer] using noLayer
  have closed : layer.root.map? layer.shelf = none := by
    rw [← Option.not_isSome_iff_eq_none]
    exact fun isMap => noMap ((Tree.kind_eq_map_iff ..).mpr isMap)
  simp [addLayer, truthy, layerBranches, closed, Traced.result_bind, Except.bind]

/-- To add what was read reports exactly where it is a layer and merging it has an end. -/
theorem reports_addLayer_iff : Reports (addLayer moment name layer below).result ↔
    IsLayer layer ∧ (addLayer moment name layer below).result ≠ .error .endless := by
  constructor
  · intro reports
    refine ⟨Classical.not_not.mp fun noLayer => ?_, reports.ne_error rfl⟩
    exact reports.ne_error rfl (addLayer_of_not_isLayer noLayer)
  · rintro ⟨isLayer, ends⟩ fault failed
    exact absurd (addLayer_fault_of_isLayer isLayer failed ▸ failed) ends

/-- Where none of the variables is set, they say nothing. -/
theorem readEnvironment_of_unset
    (unset : ∀ pair ∈ variableKeys, Entries.get? pair.1 surroundings.environment = none) :
    (readEnvironment surroundings.environment).result = .ok [] := by
  have silent : ∀ keys, (∀ pair ∈ keys, Entries.get? pair.1 surroundings.environment = none) →
      (addVariables surroundings.environment [] keys).result = .ok [] := by
    intro keys none
    induction keys with
    | nil => rfl
    | cons pair rest ih =>
      obtain ⟨first, others⟩ := List.forall_mem_cons.mp none
      simpa [addVariables, first] using ih others
  exact silent variableKeys unset

/-- Without variables a load adds the two files to the built-in settings, each once it is read. -/
theorem assemble_of_unset
    (unset : ∀ pair ∈ variableKeys, Entries.get? pair.1 surroundings.environment = none) :
    (store.assemble moment surroundings).result =
      (store.readDefaults moment surroundings).bind fun defaultFile =>
        (addLayer moment "default_config" defaultFile { branches := store.builtin }).result.bind
          fun withDefaults => (store.readLocal moment surroundings).bind
            fun localFile => (addLayer moment "local_config" localFile withDefaults).result := by
  have base : (addLayer moment "defaults" { root := .map .alone store.builtin } {}).result =
      .ok { branches := store.builtin } := addLayer_builtin
  have last (below : Layers) : (addLayer moment "environment"
      (Occasion.grow ⟨moment, 2⟩ (.map [])) below).result = .ok below := rfl
  have onwards {First Next : Type} (first : First) (next : First → Except Fault Next) :
      (Except.ok first).bind next = next first := rfl
  have whole (added : Except Fault Layers) : (added.bind fun layers => .ok layers) = added := by
    cases added <;> rfl
  simp only [assemble, Traced.result_bind, Traced.result_log, base, readEnvironment_of_unset unset,
    last, onwards, whole]
  rfl

/-- Merging the files reports its faults where both are usable, the local one as far as it is read,
and merging has an end. -/
theorem reports_assemble_iff
    (unset : ∀ pair ∈ variableKeys, Entries.get? pair.1 surroundings.environment = none) :
    Reports (store.assemble moment surroundings).result ↔
      Usable (store.readDefaults moment surroundings) ∧
      (∀ defaultFile, store.readDefaults moment surroundings = .ok defaultFile →
        Usable (store.readLocal moment surroundings)) ∧
      (store.assemble moment surroundings).result ≠ .error .endless := by
  constructor
  · intro reports
    refine and_assoc.mp ⟨?_, reports.ne_error rfl⟩
    rw [assemble_of_unset unset] at reports
    simp only [reports_bind_iff, reports_addLayer_iff] at reports
    obtain ⟨reported, afterReading⟩ := reports
    refine ⟨⟨reported, fun defaultFile known => (afterReading defaultFile known).1.1⟩,
      fun defaultFile known => ?_⟩
    obtain ⟨⟨isLayer, ends⟩, afterAdding⟩ := afterReading defaultFile known
    -- The local file is read once the file of defaults is added.
    cases added : (addLayer moment "default_config" defaultFile
        { branches := store.builtin }).result with
    | error fault => exact absurd (addLayer_fault_of_isLayer isLayer added ▸ added) ends
    | ok withDefaults =>
      obtain ⟨localReported, afterLocal⟩ := afterAdding withDefaults added
      exact ⟨localReported, fun localFile known => (afterLocal localFile known).1⟩
  · rintro ⟨⟨reported, isLayer⟩, localUsable, ends⟩
    rw [assemble_of_unset unset] at ends ⊢
    simp only [reports_bind_iff, reports_addLayer_iff]
    refine ⟨reported, fun defaultFile known => ⟨⟨isLayer defaultFile known, fun endless => ends ?_⟩,
      fun withDefaults added => ?_⟩⟩
    · simp [known, endless, Except.bind]
    · obtain ⟨localReported, localIsLayer⟩ := localUsable defaultFile known
      refine ⟨localReported, fun localFile localKnown =>
        ⟨localIsLayer localFile localKnown, fun endless => ends ?_⟩⟩
      simp [known, added, localKnown, endless, Except.bind]

/-- The check of a map reports what it finds, unless a message cannot be written. -/
theorem reports_validate_iff {config : Graph} {found : Origin × Branches}
    (isMap : config.root.map? config.shelf = some found) :
    Reports (validate config) ↔ ∀ reported, problems config = .ok reported →
      ∀ problem ∈ reported, problem.obstacle? = none := by
  constructor
  · intro reports reported known
    cases checked : validate config with
    | ok done =>
      have sound := problems_eq_nil_iff.mpr (validate_eq_ok_iff.mp checked)
      obtain rfl : [] = reported := Except.ok.inj (sound.symm.trans known)
      exact fun _ isProblem => absurd isProblem List.not_mem_nil
    | error fault =>
      obtain ⟨others, alsoKnown, _, told⟩ := validate_fault isMap checked
      obtain rfl : others = reported := Except.ok.inj (alsoKnown.symm.trans known)
      rw [← List.findSome?_eq_none_iff]
      cases unwritable : others.findSome? Problem.obstacle? with
      | none => rfl
      | some obstacle =>
        rw [refusal, unwritable] at told
        exact absurd (told ▸ checked) (reports.ne_error rfl)
  · intro writable fault failed
    obtain ⟨reported, known, _, told⟩ := validate_fault isMap failed
    have told : fault = .refused (reported.map Problem.message) := by
      rw [told, refusal, List.findSome?_eq_none_iff.mpr (writable reported known)]
    simp [told, Fault.isConfiguration]

/-- Without variables, a load fails with nothing but faults of the configuration exactly where both
files are usable, the local one as far as it is read, merging them has an end, and every rule that is
broken can be told: the value that breaks it holds no number that is too long for a message and is not
nested too deeply for one. -/
theorem load_reports_iff
    (unset : ∀ pair ∈ variableKeys, Entries.get? pair.1 surroundings.environment = none) :
    Reports (store.load moment surroundings).2.result ↔
      (Usable (store.readDefaults moment surroundings) ∧
        (∀ defaultFile, store.readDefaults moment surroundings = .ok defaultFile →
          Usable (store.readLocal moment surroundings)) ∧
        (store.assemble moment surroundings).result ≠ .error .endless) ∧
      ∀ layers reported, (store.assemble moment surroundings).result = .ok layers →
        problems layers.graph = .ok reported → ∀ problem ∈ reported, problem.obstacle? = none := by
  rw [load_result, reports_bind_iff, reports_assemble_iff unset]
  refine and_congr_right fun _ => forall_congr' fun layers => ?_
  rw [reports_validate_iff (Tree.map?_map ..)]
  exact ⟨fun after reported merged => after merged reported,
    fun after merged reported => after reported merged⟩

end Loading

/-! A file of defaults that is no YAML, and one that is no text at all. -/

namespace Unreadable

/-- A fresh store. -/
def store : Store := { folder := "config" }

/-- A default file of some bytes. -/
def surroundings (bytes : List UInt8) : Surroundings where
  files := Files.place [] "config/default.yaml" (.bytes bytes)

/-- No variable is set. -/
theorem unset (bytes : List UInt8) : ∀ pair ∈ variableKeys,
    Entries.get? pair.1 (surroundings bytes).environment = none := fun _ _ => rfl

/-- What a load reads of the default file. -/
theorem readDefaults_eq (bytes : List UInt8) : store.readDefaults 1 (surroundings bytes) =
    readContent .yaml ⟨1, 0⟩ "config/default.yaml" (.bytes bytes) :=
  readLayer_default rfl rfl rfl

/-- A fault of the file of defaults is that of the load. -/
theorem assemble_eq {bytes : List UInt8} {fault : Fault}
    (failed : readContent .yaml ⟨1, 0⟩ "config/default.yaml" (.bytes bytes) = .error fault) :
    (store.assemble 1 (surroundings bytes)).result = .error fault := by
  rw [assemble_of_unset (unset bytes), readDefaults_eq, failed]
  rfl

/-- An open bracket. -/
def unclosed : List UInt8 := [0x5B]

/-- A bracket that is not closed is malformed. -/
theorem unclosed_malformed : readContent .yaml ⟨1, 0⟩ "config/default.yaml" (.bytes unclosed) =
    .error (.malformedFile "config/default.yaml") := by
  rfl

/-- A malformed default file is reported. -/
theorem load_reports_unclosed :
    Reports (store.load 1 (surroundings unclosed)).2.result ∧
      (store.load 1 (surroundings unclosed)).2.result =
        .error (.malformedFile "config/default.yaml") := by
  have merged := assemble_eq unclosed_malformed
  have given : store.readDefaults 1 (surroundings unclosed) =
      .error (.malformedFile "config/default.yaml") :=
    (readDefaults_eq unclosed).trans unclosed_malformed
  refine ⟨(load_reports_iff (unset unclosed)).mpr ⟨⟨⟨?_, ?_⟩, ?_, ?_⟩, ?_⟩, ?_⟩
  · simp [given, Reports, Fault.isConfiguration]
  · simp [given]
  · simp [given]
  · simp [merged]
  · simp [merged]
  · rw [load_result, merged]
    rfl

/-- A byte that begins no character. -/
def undecodable : List UInt8 := [0xFF]

/-- Bytes that are no text are not reported. -/
theorem load_undecodable_unreported :
    (store.load 1 (surroundings undecodable)).2.result = .error .undecodable ∧
      ¬Reports (store.load 1 (surroundings undecodable)).2.result := by
  have failed : (store.load 1 (surroundings undecodable)).2.result = .error .undecodable := by
    have assembled : (store.assemble 1 (surroundings undecodable)).result = .error .undecodable :=
      assemble_eq rfl
    rw [load_result, assembled]
    rfl
  exact ⟨failed, fun reports => reports.ne_error rfl failed⟩

end Unreadable

end Store

end Switchboard.Settings
