import Switchboard.Logging.Setup

/-!
# When logging can be set up

The section of a configuration suits a setup where its levels are names of levels, a file that is
asked for is a path with a size that can be read, and its services are a map from names that can be
written to levels. What is not asked for need not make sense. Wherever the files and folders permit
the log file, logging is set up exactly for sections that suit (`setUp_eq_ok_iff`). Nothing is said
about a log file whose name holds halves of pairs (`Permits`).
-/

namespace Switchboard.Logging

/-- The names that give a level are those that are listed. -/
theorem Level.named_eq_ok_iff {name : String} :
    (∃ level, Level.named name = .ok level) ↔ name ∈ Level.names.map Prod.fst := by
  unfold Level.named
  cases found : Level.names.find? fun entry => entry.1 = name with
  | none =>
    refine iff_of_false (by simp) fun listed => ?_
    obtain ⟨entry, member, rfl⟩ := List.mem_map.mp listed
    exact absurd (by simp) (List.find?_eq_none.mp found entry member)
  | some entry =>
    obtain rfl : entry.1 = name := by simpa using List.find?_some found
    exact iff_of_true ⟨entry.2, rfl⟩ (List.mem_map_of_mem (List.mem_of_find?_eq_some found))

/-- They are in capitals. -/
theorem Level.upper_of_mem {name : String} (listed : name ∈ Level.names.map Prod.fst) :
    Text.upper name = name := by
  have capital : ∀ name ∈ Level.names.map Prod.fst, Text.upper name = name := by decide +kernel
  exact capital name listed

namespace Setup

/-- Whether a value can be put in capitals. -/
def HasCapitals (value : Value) : Prop := ∃ name, capitals value = .ok name

/-- Whether capitals are the name of a level. -/
def IsLevel (name : Scalar) : Prop := ∃ level, levelOf name = .ok level

/-- Whether a value names a level. -/
def NamesLevel (value : Value) : Prop := ∃ name, capitals value = .ok name ∧ IsLevel name

/-- A level is one of the names in capitals. -/
theorem isLevel_iff {name : Scalar} :
    IsLevel name ↔ ∃ written, name = .text written ∧ written ∈ Level.names.map Prod.fst := by
  cases name with
  | text written =>
    simp [IsLevel, levelOf, mapError_eq_ok_iff, Level.named_eq_ok_iff]
  | _ => simp [IsLevel, levelOf]

/-- Only texts name levels, in any letter case. -/
theorem namesLevel_iff {value : Value} : NamesLevel value ↔
    ∃ written, value = .text written ∧ Text.upper written ∈ Level.names.map Prod.fst := by
  constructor
  · rintro ⟨name, capital, isLevel⟩
    obtain ⟨listed, rfl, isListed⟩ := isLevel_iff.mp isLevel
    unfold capitals at capital
    split at capital
    next written =>
      obtain rfl : Text.upper written = listed := by simpa using capital
      exact ⟨written, rfl, isListed⟩
    all_goals simp at capital
  · rintro ⟨written, rfl, listed⟩
    exact ⟨_, rfl, isLevel_iff.mpr ⟨_, rfl, listed⟩⟩

/-- What is the name of a level is in capitals already. -/
theorem IsLevel.capitals {name : Scalar} (isLevel : IsLevel name) :
    capitals (.scalar name) = .ok name := by
  obtain ⟨written, rfl, listed⟩ := isLevel_iff.mp isLevel
  simp [Setup.capitals, Level.upper_of_mem listed]

/-- The section of a configuration that is about logging, if the configuration has one or lets it be
as usual. -/
def sectionOf? (config : Value) : Option (List (Scalar × Value)) := do
  let entries ← (fieldsOf "get" config).toOption
  (fieldsOf "get" (entry "logging" (.map []) entries)).toOption

/-- Both a configuration and its section are maps. -/
theorem sectionOf?_eq_some_iff {config : Value} {fields : List (Scalar × Value)} :
    sectionOf? config = some fields ↔ ∃ entries, config = .map entries ∧
      entry "logging" (.map []) entries = .map fields := by
  have isMap (operation : String) (value : Value) (found : List (Scalar × Value)) :
      (fieldsOf operation value).toOption = some found ↔ value = .map found := by
    cases value <;> simp [fieldsOf, Except.toOption]
  simp [sectionOf?, Option.bind_eq_some_iff, isMap]

/-- Whether a section suits a setup, apart from its level. -/
structure Suits (fields : List (Scalar × Value)) : Prop where
  /-- The level of the console can be put in capitals, and is one if there is a console. -/
  console : ∀ found, Entries.get? (.text "console_level") fields = some found →
    HasCapitals found ∧ ((entry "console" (.bool true) fields).isTruthy = true → NamesLevel found)
  /-- A file that is asked for is named by a text, and has a size that can be read. -/
  file : (entry "file" .null fields).isTruthy = true →
    (entry "file" .null fields).kind = .text ∧
      ∃ limit, readSize (entry "max_size" (.text "10MB") fields) = .ok limit
  /-- The services are a map from names that can be written to levels. -/
  services : ∃ services, entry "services" (.map []) fields = .map services ∧
    ∀ service ∈ services, service.1.isTooLong = false ∧ NamesLevel service.2

variable {journal other : Journal} {plan : Plan} {config : Value}

/-- A plan is read of a section whose levels have capitals. -/
theorem read_eq_ok_iff : Plan.read config = .ok plan ↔ ∃ fields level consoleLevel,
    sectionOf? config = some fields ∧ capitals (entry "level" (.text "INFO") fields) = .ok level ∧
      capitals (entry "console_level" (.scalar level) fields) = .ok consoleLevel ∧
      Plan.ofSection fields level consoleLevel = plan := by
  unfold Plan.read sectionOf?
  cases fieldsOf "get" config with
  | error misuse => simp [bind, Except.bind, Except.toOption]
  | ok entries =>
    cases section? : fieldsOf "get" (entry "logging" (.map []) entries) with
    | error misuse => simp [bind, Except.bind, Except.toOption, section?]
    | ok fields =>
      cases first : capitals (entry "level" (.text "INFO") fields) with
      | error misuse => simp [bind, Except.bind, Except.toOption, section?, first]
      | ok level =>
        cases second : capitals (entry "console_level" (.scalar level) fields) <;>
          simp [bind, Except.bind, Except.toOption, pure, Except.pure, section?, first, second]

/-! The steps, one by one. -/

/-- Steps succeed one after the other. -/
theorem inOrder_eq_ok_iff {step : Step} {rest : List Step} :
    (inOrder (step :: rest) journal).2 = .ok () ↔
      (step journal).2 = .ok () ∧ (inOrder rest (step journal).1).2 = .ok () := by
  cases taken : step journal with
  | mk next outcome => cases outcome <;> simp [inOrder, taken]

/-- A step with a level succeeds exactly where it is one. -/
theorem withLevel_eq_ok_iff {name : Scalar} {use : Level → Journal → Journal} :
    (withLevel name use journal).2 = .ok () ↔ IsLevel name := by
  unfold withLevel IsLevel
  cases levelOf name <;> simp

/-- Steps for the items of a list succeed where they succeed for each item, if this does not depend
on what was done before. -/
theorem inOrder_map_eq_ok_iff {Item : Type} {step : Item → Step} {good : Item → Prop}
    (decides : ∀ item journal, (step item journal).2 = .ok () ↔ good item) (items : List Item)
    (journal : Journal) :
    (inOrder (items.map step) journal).2 = .ok () ↔ ∀ item ∈ items, good item := by
  induction items generalizing journal with
  | nil => simp [inOrder]
  | cons item rest ih =>
    rw [List.map_cons, inOrder_eq_ok_iff, decides, ih, List.forall_mem_cons]

/-- The package has its level set where the plan names one. -/
theorem packageStep_eq_ok_iff : (packageStep plan journal).2 = .ok () ↔ IsLevel plan.level :=
  withLevel_eq_ok_iff

/-- A service has its level set where its name can be written and its level is one. -/
theorem serviceStep_eq_ok_iff (service : Scalar × Value) (journal : Journal) :
    (serviceStep service journal).2 = .ok () ↔
      service.1.isTooLong = false ∧ NamesLevel service.2 := by
  unfold serviceStep NamesLevel
  cases long : service.1.isTooLong with
  | true => simp
  | false => cases capitals service.2 <;> simp [withLevel_eq_ok_iff]

/-- The services have their levels set where they are a map and each of them has. -/
theorem servicesStep_eq_ok_iff : (servicesStep plan journal).2 = .ok () ↔
    ∃ services, plan.services = .map services ∧
      ∀ service ∈ services, service.1.isTooLong = false ∧ NamesLevel service.2 := by
  unfold servicesStep fieldsOf
  cases plan.services with
  | map services => simp [inOrder_map_eq_ok_iff serviceStep_eq_ok_iff]
  | _ => simp

/-- The console is set up where it is not wanted or has a level. -/
theorem consoleStep_eq_ok_iff : (consoleStep plan journal).2 = .ok () ↔
    (plan.console.isTruthy = true → IsLevel plan.consoleLevel) := by
  unfold consoleStep
  cases plan.console.isTruthy <;> simp [withLevel_eq_ok_iff]

/-- Whether the files and folders permit a log file: one that is asked for by a text can be opened,
with the folders that it needs. No file is modelled whose name holds halves of pairs, so none is permitted. -/
def Permits (journal : Journal) (file : Value) : Prop :=
  file.isTruthy = true → file.kind = .text → ∃ written, file = .text written ∧
    (folderStep (partsOf written) journal).2 = .ok () ∧
    openFault? (folderStep (partsOf written) journal).1 (Path.Place.ofParts (partsOf written)) = none

/-- Nothing but the files and folders of a journal matters for that. -/
theorem Permits.congr {file : Value} (permits : Permits journal file)
    (files : other.files = journal.files) (folders : other.folders = journal.folders) :
    Permits other file := by
  intro truthy isText
  obtain ⟨written, rfl, made, opened⟩ := permits truthy isText
  have same : (folderStep (partsOf written) other).2 = (folderStep (partsOf written) journal).2 ∧
      (folderStep (partsOf written) other).1.files =
        (folderStep (partsOf written) journal).1.files ∧
      (folderStep (partsOf written) other).1.folders =
        (folderStep (partsOf written) journal).1.folders := by
    simp only [folderStep, files, folders]
    split <;> simp [files, folders]
  refine ⟨written, rfl, same.1 ▸ made, ?_⟩
  rw [← opened, openFault?, openFault?, same.2.1, same.2.2]

/-- The package gets its level and loses its handlers; files and folders are as before. -/
theorem packageStep_keeps : (packageStep plan journal).1.files = journal.files ∧
    (packageStep plan journal).1.folders = journal.folders := by
  unfold packageStep withLevel
  split <;> exact ⟨rfl, rfl⟩

/-- A file handler is added where the file is permitted and has a size, or none is asked for. -/
theorem fileStep_eq_ok_iff (permits : Permits journal plan.file) (isLevel : IsLevel plan.level) :
    (fileStep plan journal).2 = .ok () ↔ (plan.file.isTruthy = true →
      plan.file.kind = .text ∧ ∃ limit, readSize plan.maxSize = .ok limit) := by
  cases truthy : plan.file.isTruthy with
  | false => simp [fileStep, truthy]
  | true =>
    by_cases isText : plan.file.kind = .text
    · obtain ⟨written, isWritten, made, opened⟩ := permits truthy isText
      have steps : fileStep plan journal = inOrder [folderStep (partsOf written),
          openFile plan (Path.Place.ofParts (partsOf written))] journal := by
        rw [isWritten] at truthy
        simp [fileStep, isWritten, truthy]
      rw [steps, inOrder_eq_ok_iff, inOrder_eq_ok_iff]
      cases size : readSize plan.maxSize <;>
        simp [inOrder, made, openFile, size, opened, withLevel_eq_ok_iff, isLevel, isText]
    · have noPath : (fileStep plan journal).2 = .error (.misuse (.notAPath plan.file.kind)) := by
        unfold fileStep
        split
        next falsy => simp [truthy] at falsy
        next =>
          split
          next written isWritten => simp [isWritten, Value.kind, Scalar.kind] at isText
          next => rfl
      simp [noPath, isText]

/-- The steps of a setup succeed where each of them does: none spoils what a later one needs. -/
theorem steps_eq_ok_iff (permits : Permits journal plan.file) :
    (inOrder [packageStep plan, fileStep plan, consoleStep plan, servicesStep plan, finish]
        journal).2 = .ok () ↔
      IsLevel plan.level ∧
      (plan.file.isTruthy = true →
        plan.file.kind = .text ∧ ∃ limit, readSize plan.maxSize = .ok limit) ∧
      (plan.console.isTruthy = true → IsLevel plan.consoleLevel) ∧
      ∃ services, plan.services = .map services ∧
        ∀ service ∈ services, service.1.isTooLong = false ∧ NamesLevel service.2 := by
  have kept : Permits (packageStep plan journal).1 plan.file :=
    permits.congr packageStep_keeps.1 packageStep_keeps.2
  simp only [inOrder_eq_ok_iff, packageStep_eq_ok_iff, consoleStep_eq_ok_iff,
    servicesStep_eq_ok_iff]
  refine and_congr_right fun isLevel => ?_
  rw [fileStep_eq_ok_iff kept isLevel]
  simp [inOrder, finish]

/-- The level of the console is that of the section where it has none of its own. -/
theorem console_iff {fields : List (Scalar × Value)} {level : Scalar} (isLevel : IsLevel level) :
    (∃ consoleLevel, capitals (entry "console_level" (.scalar level) fields) = .ok consoleLevel ∧
      ((entry "console" (.bool true) fields).isTruthy = true → IsLevel consoleLevel)) ↔
    ∀ found, Entries.get? (.text "console_level") fields = some found →
      HasCapitals found ∧
        ((entry "console" (.bool true) fields).isTruthy = true → NamesLevel found) := by
  cases own : Entries.get? (.text "console_level") fields with
  | none => simp [entry, own, isLevel.capitals, isLevel]
  | some found =>
    cases capital : capitals found with
    | error misuse => simp [entry, own, capital, HasCapitals]
    | ok name => simp [entry, own, capital, HasCapitals, NamesLevel]

end Setup

open Setup

/-- Logging is set up exactly for sections that name a level and suit otherwise, as long as the
files and folders permit the log file. -/
theorem Journal.setUp_eq_ok_iff {journal : Journal} {config : Value}
    (permits : ∀ fields, sectionOf? config = some fields →
      Permits journal (entry "file" .null fields)) :
    (journal.setUp config).2 = .ok () ↔ ∃ fields, sectionOf? config = some fields ∧
      NamesLevel (entry "level" (.text "INFO") fields) ∧ Suits fields := by
  have planned : (journal.setUp config).2 = .ok () ↔ ∃ plan, Plan.read config = .ok plan ∧
      (inOrder [packageStep plan, fileStep plan, consoleStep plan, servicesStep plan, finish]
        journal).2 = .ok () := by
    unfold Journal.setUp
    cases Plan.read config <;> simp
  rw [planned]
  constructor
  · rintro ⟨plan, read, ended⟩
    obtain ⟨fields, level, consoleLevel, known, isCapital, isConsole, rfl⟩ := read_eq_ok_iff.mp read
    obtain ⟨isLevel, file, console, services⟩ := (steps_eq_ok_iff (permits fields known)).mp ended
    have suits := (console_iff isLevel).mp ⟨consoleLevel, isConsole, console⟩
    exact ⟨fields, known, ⟨level, isCapital, isLevel⟩, suits, file, services⟩
  · rintro ⟨fields, known, ⟨level, isCapital, isLevel⟩, suits⟩
    obtain ⟨consoleLevel, isConsole, console⟩ := (console_iff isLevel).mpr suits.console
    refine ⟨Plan.ofSection fields level consoleLevel,
      read_eq_ok_iff.mpr ⟨fields, level, consoleLevel, known, isCapital, isConsole, rfl⟩, ?_⟩
    exact (steps_eq_ok_iff (permits fields known)).mpr
      ⟨isLevel, suits.file, console, suits.services⟩

end Switchboard.Logging
