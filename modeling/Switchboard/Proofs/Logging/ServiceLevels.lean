import Switchboard.Proofs.Logging.Repeating

/-!
# The levels that reach services

A setup puts the names of the services below the package and gives the levels to the loggers of these
names. A service that asks for its logger by name gets the logger below the package as well, unless the
name is below the package already: then it is left alone. So once a setup succeeds, a service has its
level at the logger that it asks for as long as it is not called by a name below the package. The logger
of such a name has the level of the last service that is called by the rest of it, and the one that it
had before where no service is (`setUp_reaches`).

These are names of texts. A service that is called by a text with halves of pairs is not called by any of
them (`serviceName?`), and of its logger nothing is said.
-/

namespace Switchboard.Logging

/-! Full names. -/

/-- Whether a name is below the package as it is. -/
def IsBelow (name : String) : Prop := ∃ rest, name = package ++ "." ++ rest

section Names

variable {label : String}

/-- A name is below the package where it begins with its name and a dot. -/
theorem isBelow_iff : IsBelow label ↔ (package ++ ".").toList.isPrefixOf label.toList = true := by
  rw [List.isPrefixOf_iff_prefix]
  constructor
  · rintro ⟨rest, rfl⟩
    exact ⟨rest.toList, by simp⟩
  · rintro ⟨rest, whole⟩
    refine ⟨String.ofList rest, ?_⟩
    rw [← String.toList_inj, ← whole]
    simp

/-- A name below the package is not qualified again. -/
theorem qualify_of_isBelow (below : IsBelow label) : qualify label = label := by
  rw [qualify, isBelow_iff.mp below, Bool.or_true, if_pos rfl]

/-- A name that is neither that of the package nor below it is put below it. -/
theorem qualify_of_not_isBelow (isOther : label ≠ package) (outside : ¬IsBelow label) :
    qualify label = package ++ "." ++ label := by
  rw [isBelow_iff, Bool.not_eq_true] at outside
  rw [qualify, outside, Bool.or_false, if_neg (by simpa using isOther)]

/-- Full names are not the root's. -/
theorem qualify_isInner (label : String) : Loggers.isRoot (qualify label) = false := by
  by_cases below : IsBelow label
  · obtain ⟨rest, rfl⟩ := below
    rw [qualify_of_isBelow ⟨rest, rfl⟩]
    exact Setup.loggerOf_isInner rest
  · by_cases isPackage : label = package
    · subst isPackage
      decide
    · rw [qualify_of_not_isBelow isPackage below]
      exact Setup.loggerOf_isInner label

end Names

/-- The level of the logger that is asked for by a name. -/
def Journal.levelAsked (journal : Journal) (name : String) : Level :=
  (journal.obtain name).loggers.level (qualify name)

/-- Asking for a logger changes no level but that of the root. -/
theorem Journal.levelAsked_eq (journal : Journal) (name : String) :
    journal.levelAsked name = journal.loggers.level (qualify name) := by
  have inner := qualify_isInner name
  unfold levelAsked obtain create installRoot
  rw [Loggers.level_create]
  split
  · rfl
  · split
    · rfl
    · simp [Loggers.level, Loggers.setRootLevel, inner]

/-- By a name that is not yet below the package, the logger of the name below it is asked for. -/
theorem Journal.levelAsked_of_not_isBelow (journal : Journal) {label : String}
    (isOther : qualify label ≠ package) (outside : ¬IsBelow label) :
    journal.levelAsked label = journal.levelAsked (package ++ "." ++ label) := by
  have notPackage : label ≠ package := by
    rintro rfl
    exact isOther (by decide)
  rw [levelAsked_eq, levelAsked_eq, qualify_of_not_isBelow notPackage outside,
    qualify_of_isBelow ⟨label, rfl⟩]

namespace Setup

/-- Whether a value names a level, in any letter case. -/
def Names (value : Value) (level : Level) : Prop :=
  ∃ written, value = .text written ∧ (Text.upper written, level) ∈ Level.names

/-- A level that has a name is in the table. -/
theorem mem_of_named {name : String} {level : Level} (isLevel : Level.named name = .ok level) :
    (name, level) ∈ Level.names := by
  unfold Level.named at isLevel
  split at isLevel
  next written found known =>
    obtain rfl := Except.ok.inj isLevel
    obtain rfl : written = name := by simpa using List.find?_some known
    exact List.mem_of_find?_eq_some known
  next => simp at isLevel

section Services

variable {services before after : List (Scalar × Value)} {service : Scalar × Value} {name : String}
  {level : Level}

/-- A service that can be set up gives its logger the level that it names. -/
theorem exists_given (writable : service.1.isTooLong = false) (isLevel : NamesLevel service.2) :
    ∃ level, givenBy? service = some level ∧ Names service.2 level := by
  obtain ⟨written, isText, -⟩ := namesLevel_iff.mp isLevel
  obtain ⟨name, capital, level, known⟩ := isLevel
  refine ⟨level, by simp [givenBy?, writable, capital, known, Except.toOption], written, isText, ?_⟩
  obtain rfl : Scalar.text (Text.upper written) = name := by
    simpa [isText, capitals] using capital
  exact mem_of_named (mapError_eq_ok_iff.mp known)

/-- Services that are not about a logger give it no level. -/
theorem levelFor?_of_apart (apart : ∀ service ∈ services, loggerOf? service ≠ some name) :
    levelFor? name services = none := by
  induction services with
  | nil => rfl
  | cons service rest ih =>
    rw [levelFor?, ih fun other member => apart other (List.mem_cons_of_mem _ member)]
    cases givenBy? service <;> simp [apart service]

/-- Later services count before earlier ones, if these all give their loggers levels. -/
theorem levelFor?_append (given : ∀ service ∈ before, ∃ level, givenBy? service = some level) :
    levelFor? name (before ++ after) = (levelFor? name after).or (levelFor? name before) := by
  induction before with
  | nil => simp [levelFor?]
  | cons service rest ih =>
    obtain ⟨level, isGiven⟩ := given service (by simp)
    rw [List.cons_append, levelFor?, levelFor?, isGiven,
      ih fun other member => given other (List.mem_cons_of_mem _ member)]
    simp [Option.or_assoc]

/-- The last service that is about a logger decides its level, if all services give levels. -/
theorem levelFor?_of_last
    (given : ∀ other ∈ before ++ service :: after, ∃ level, givenBy? other = some level)
    (isGiven : givenBy? service = some level) (about : loggerOf? service = some name)
    (last : ∀ other ∈ after, loggerOf? other ≠ some name) :
    levelFor? name (before ++ service :: after) = some level := by
  rw [levelFor?_append fun other member => given other (List.mem_append_left _ member), levelFor?,
    isGiven, levelFor?_of_apart last]
  simp [about]

/-- The logger of a service is told by what the service is called. -/
theorem loggerOf?_eq_iff {rest : String} :
    loggerOf? service = some (package ++ "." ++ rest) ↔ serviceName? service.1 = some rest := by
  simp [loggerOf?]

end Services

/-- What a setup that succeeds has read and done: it has made the handlers of its plan, and its services
are a map that can be set up. -/
theorem exists_plan_of_setUp {journal : Journal} {config : Value}
    (succeeds : (journal.setUp config).2 = .ok ()) :
    ∃ plan services level, Plan.read config = .ok plan ∧ levelOf plan.level = .ok level ∧
      (outfit plan journal.files journal.folders).2 = .ok () ∧ plan.services = .map services ∧
      ∀ service ∈ services, service.1.isTooLong = false ∧ NamesLevel service.2 := by
  cases read : Plan.read config with
  | error misuse => simp [Journal.setUp, read] at succeeds
  | ok plan =>
    rw [setUp_of_read read] at succeeds
    simp only [inOrder_eq_ok_iff] at succeeds
    obtain ⟨begins, file, console, services, -⟩ := succeeds
    obtain ⟨level, isLevel⟩ := packageStep_eq_ok_iff.mp begins
    obtain ⟨services, isMap, all⟩ := servicesStep_eq_ok_iff.mp services
    -- The first step clears the handlers and leaves files and folders, so the next two make the outfit.
    have bare : (packageStep plan journal).1.handlers = [] := by
      simp [packageStep, withLevel, isLevel]
    have made := (outfit_spec plan _ bare).2.1
    rw [packageStep_keeps.1, packageStep_keeps.2] at made
    refine ⟨plan, services, level, rfl, isLevel, ?_, isMap, all⟩
    rw [← made]
    exact inOrder_eq_ok_iff.mpr ⟨file, inOrder_eq_ok_iff.mpr ⟨console, rfl⟩⟩

/-- Whether a service is the only one that the full name of its label belongs to. -/
def IsAlone (services : List (Scalar × Value)) (label : String) (level : Value) : Prop :=
  ∃ before after, services = before ++ (.text label, level) :: after ∧
    ∀ other ∈ before ++ after, ∀ also, serviceName? other.1 = some also → qualify also ≠ qualify label

/-- No service after one that is alone is called as this one is. -/
theorem IsAlone.exists_last {services : List (Scalar × Value)} {label : String} {level : Value}
    (alone : IsAlone services label level) :
    ∃ before after, services = before ++ (.text label, level) :: after ∧
      ∀ later ∈ after, serviceName? later.1 ≠ some label := by
  obtain ⟨before, after, split, others⟩ := alone
  refine ⟨before, after, split, fun later member same => ?_⟩
  exact others later (List.mem_append_right _ member) label same rfl

/-- What a setup over a journal makes of the levels of the loggers that are asked for by name. -/
structure Reaches (services : List (Scalar × Value)) (journal next : Journal) : Prop where
  /-- A service whose full name is its alone is given its level, unless it is called by a name that is
  below the package already. -/
  alone : ∀ label level, IsAlone services label level → qualify label ≠ package → ¬IsBelow label →
    ∃ given, Names level given ∧ next.levelAsked label = given
  /-- A name below the package has the level of the last service that is called by the rest of it. -/
  below : ∀ before service after label, services = before ++ service :: after →
    serviceName? service.1 = some label → (∀ later ∈ after, serviceName? later.1 ≠ some label) →
      ∃ given, Names service.2 given ∧ next.levelAsked (package ++ "." ++ label) = given
  /-- It keeps its level, if no service is called so. -/
  kept : ∀ rest, (∀ service ∈ services, serviceName? service.1 ≠ some rest) →
    next.levelAsked (package ++ "." ++ rest) = journal.levelAsked (package ++ "." ++ rest)

section Reaching

variable {journal : Journal} {config : Value}

/-- A setup that succeeds gives the logger of a name below the package the level that its services give
it, if they do. -/
theorem exists_levels_of_setUp (succeeds : (journal.setUp config).2 = .ok ()) :
    ∃ fields services, sectionOf? config = some fields ∧
      entry "services" (.map []) fields = .map services ∧
      (∀ service ∈ services, ∃ level, givenBy? service = some level ∧ Names service.2 level) ∧
      ∀ rest, (journal.setUp config).1.levelAsked (package ++ "." ++ rest) =
        (levelFor? (package ++ "." ++ rest) services).getD
          (journal.levelAsked (package ++ "." ++ rest)) := by
  obtain ⟨plan, services, level, read, isLevel, made, isMap, all⟩ := exists_plan_of_setUp succeeds
  obtain ⟨fields, _, _, known, -, -, ofSection⟩ := read_eq_ok_iff.mp read
  refine ⟨fields, services, known, ?_, fun service member => ?_, fun rest => ?_⟩
  · rw [← isMap, ← ofSection]
    rfl
  · exact exists_given (all service member).1 (all service member).2
  · rw [Journal.levelAsked_eq, Journal.levelAsked_eq, qualify_of_isBelow ⟨rest, rfl⟩,
      (setUp_of_takesHold read isLevel (loggerOf_isInner rest) journal).2, made, isMap,
      if_neg (package_ne_loggerOf rest)]
    rfl

/-- Whatever logging was before: a setup that succeeds gives the loggers that are asked for by name the
levels of the services that are put below the package. -/
theorem setUp_reaches (succeeds : (journal.setUp config).2 = .ok ()) :
    ∃ fields services, sectionOf? config = some fields ∧
      entry "services" (.map []) fields = .map services ∧
      Reaches services journal (journal.setUp config).1 := by
  obtain ⟨fields, services, known, isMap, given, levels⟩ := exists_levels_of_setUp succeeds
  have below : ∀ before service after label, services = before ++ service :: after →
      serviceName? service.1 = some label → (∀ later ∈ after, serviceName? later.1 ≠ some label) →
        ∃ given, Names service.2 given ∧
          (journal.setUp config).1.levelAsked (package ++ "." ++ label) = given := by
    rintro before service after label rfl called last
    obtain ⟨level, isGiven, names⟩ := given service (by simp)
    have decides := levelFor?_of_last
      (fun other member => (given other member).imp fun _ => And.left) isGiven
      (loggerOf?_eq_iff.mpr called) fun later member => mt loggerOf?_eq_iff.mp (last later member)
    refine ⟨level, names, ?_⟩
    rw [levels, decides]
    rfl
  refine ⟨fields, services, known, isMap, ?alone, below, ?kept⟩
  case alone =>
    intro label level alone isOther outside
    obtain ⟨before, after, split, last⟩ := alone.exists_last
    rw [Journal.levelAsked_of_not_isBelow _ isOther outside]
    exact below before (.text label, level) after label split rfl last
  case kept =>
    intro rest others
    have silent := levelFor?_of_apart fun service member =>
      mt loggerOf?_eq_iff.mp (others service member)
    rw [levels, silent]
    rfl

end Reaching

/-! Two services, one of which is called by its full name. -/

namespace Called

/-- Levels for two services. -/
def services : List (Scalar × Value) :=
  [(.text "dialer", .text "debug"), (.text "callroute.ranker", .text "Error")]

/-- A configuration with these levels. -/
def config : Value :=
  .record [("logging", .record [("console", .bool false), ("services", .map services)])]

/-- Both are alone with their full names. -/
theorem isAlone : IsAlone services "dialer" (.text "debug") ∧
    IsAlone services "callroute.ranker" (.text "Error") := by
  have different : qualify "dialer" ≠ qualify "callroute.ranker" := by decide +kernel
  refine ⟨⟨[], [(.text "callroute.ranker", .text "Error")], rfl, ?_⟩,
    [(.text "dialer", .text "debug")], [], rfl, ?_⟩
  · simpa [serviceName?, Scalar.shown] using different.symm
  · simpa [serviceName?, Scalar.shown] using different

/-- The level of one of them reaches it. -/
theorem setUp_reaches_dialer :
    (({} : Journal).setUp config).2 = .ok () ∧ qualify "dialer" ≠ package ∧ ¬IsBelow "dialer" ∧
      Reaches services {} (({} : Journal).setUp config).1 ∧
      ∃ given, Names (.text "debug") given ∧
        (({} : Journal).setUp config).1.levelAsked "dialer" = given := by
  have succeeds : (({} : Journal).setUp config).2 = .ok () := by rfl
  have isOther : qualify "dialer" ≠ package := by decide +kernel
  have outside : ¬IsBelow "dialer" := mt isBelow_iff.mp (by decide +kernel)
  obtain ⟨fields, found, known, isMap, reaches⟩ := setUp_reaches succeeds
  obtain rfl : [(.text "console", .bool false), (.text "services", .map services)] = fields :=
    Option.some.inj known
  obtain rfl : services = found := Value.map.inj isMap
  exact ⟨succeeds, isOther, outside, reaches,
    reaches.alone "dialer" (.text "debug") isAlone.1 isOther outside⟩

/-- The level of the other one is set where nobody asks for it. -/
theorem setUp_misses_ranker :
    (({} : Journal).setUp config).2 = .ok () ∧
      IsAlone services "callroute.ranker" (.text "Error") ∧ qualify "callroute.ranker" ≠ package ∧
      Names (.text "Error") 40 ∧
      (({} : Journal).setUp config).1.levelAsked "callroute.ranker" = Level.unset ∧
      (({} : Journal).setUp config).1.loggers.level "callroute.callroute.ranker" = 40 :=
  ⟨by rfl, isAlone.2, by decide +kernel, ⟨_, rfl, by decide +kernel⟩, by rfl, by rfl⟩

end Called

end Setup

end Switchboard.Logging
