import Switchboard.Proofs.Logging.SettingUp

/-!
# Setting up logging again

A setup takes hold when its configuration is read and names a level for the package: from then on
nothing is left of earlier levels and handlers of the package, even if the setup fails later. So the
last setup of a history that takes hold decides them as if it were made alone, over the files and
folders that it found; a setup that does not take hold leaves them.

The loggers of services are never cleared. The level of such a logger is the one that was given to it
last, by whichever setup of the history; later ones that give it none leave it (`setUpAll_decided`).
-/

namespace Switchboard.Logging

namespace Loggers

variable {loggers : Loggers} {name other : String} {level : Level}

/-- A logger that comes into being has no level, as it had before. -/
@[simp] theorem level_create : (loggers.create other).level name = loggers.level name := by
  unfold create
  split
  next => rfl
  next missing =>
    have absent : Entries.get? other loggers.levels = none := by
      simp only [Bool.or_eq_true, not_or, Bool.not_eq_true, Entries.has, Option.isSome_eq_false_iff,
        Option.isNone_iff_eq_none] at missing
      exact missing.2
    by_cases same : other = name
    · obtain rfl := same
      simp [Loggers.level, absent]
    · simp [Loggers.level, Entries.get?_put, same]

/-- A level is given to one logger only. -/
theorem level_setLevel (inner : isRoot name = false) :
    (loggers.setLevel other level).level name =
      if other = name then level else loggers.level name := by
  by_cases same : other = name <;> simp [Loggers.level, inner, setLevel, Entries.get?_put, same]

end Loggers

namespace Setup

/-! What is done between the level of the package and those of the services. -/

/-- Whether a step goes by the handlers, the files and the folders alone, and changes nothing else. -/
def IsBlind (step : Step) : Prop := ∀ journal loggers hasRootHandler isSetUp,
  step { journal with loggers, hasRootHandler, isSetUp } =
    ({ (step journal).1 with loggers, hasRootHandler, isSetUp }, (step journal).2)

section Blind

variable {plan : Plan} {journal : Journal}

/-- A blind step leaves the loggers alone. -/
theorem IsBlind.loggers {step : Step} (blind : IsBlind step) (journal : Journal) :
    (step journal).1.loggers = journal.loggers :=
  (congrArg (·.1.loggers) (blind journal journal.loggers journal.hasRootHandler journal.isSetUp) :)

/-- Blind steps in order are a blind step. -/
theorem inOrder_isBlind {steps : List Step} (blind : ∀ step ∈ steps, IsBlind step) :
    IsBlind (inOrder steps) := by
  induction steps with
  | nil => exact fun _ _ _ _ => rfl
  | cons step rest ih =>
    intro journal loggers hasRootHandler isSetUp
    have later := ih fun step member => blind step (List.mem_cons_of_mem _ member)
    rw [inOrder, inOrder, blind step (by simp)]
    rcases step journal with ⟨next, _ | _⟩
    · rfl
    · exact later next loggers hasRootHandler isSetUp

/-- Steps are taken in order up to the first that fails. -/
theorem inOrder_append (first second : List Step) (journal : Journal) :
    inOrder (first ++ second) journal =
      match inOrder first journal with
      | (next, .ok ()) => inOrder second next
      | (stopped, .error fault) => (stopped, .error fault) := by
  induction first generalizing journal with
  | nil => rfl
  | cons step rest ih =>
    rw [List.cons_append, inOrder, inOrder]
    rcases step journal with ⟨next, _ | _⟩
    · rfl
    · exact ih next

/-- To add a handler with a level is a blind step. -/
theorem withLevel_isBlind {name : Scalar} (handler : Level → Handler) : IsBlind (withLevel name
    fun level journal => { journal with handlers := journal.handlers ++ [handler level] }) := by
  intro journal loggers hasRootHandler isSetUp
  unfold withLevel
  cases levelOf name <;> rfl

/-- To make folders is a blind step. -/
theorem folderStep_isBlind (parts : List String) : IsBlind (folderStep parts) := by
  intro journal loggers hasRootHandler isSetUp
  simp only [folderStep]
  split <;> rfl

/-- To open a file is a blind step. -/
theorem openFile_isBlind (place : Path.Place) : IsBlind (openFile plan place) := by
  intro journal loggers hasRootHandler isSetUp
  unfold openFile
  cases readSize plan.maxSize with
  | error fault => rfl
  | ok limit =>
    have same : openFault? { journal with loggers, hasRootHandler, isSetUp } place =
        openFault? journal place := rfl
    simp only [same]
    cases openFault? journal place with
    | some fault => rfl
    | none =>
      exact withLevel_isBlind (fun level => .file place.path level limit plan.backups)
        { journal with files := journal.files.ensure place.path } loggers hasRootHandler isSetUp

/-- The step of the log file is blind. -/
theorem fileStep_isBlind : IsBlind (fileStep plan) := by
  intro journal loggers hasRootHandler isSetUp
  unfold fileStep
  split
  next => rfl
  next =>
    split
    next written _ =>
      refine inOrder_isBlind ?_ journal loggers hasRootHandler isSetUp
      simp [folderStep_isBlind, openFile_isBlind]
    next => rfl

/-- The step of the console is blind. -/
theorem consoleStep_isBlind : IsBlind (consoleStep plan) := by
  intro journal loggers hasRootHandler isSetUp
  unfold consoleStep
  split
  next => exact withLevel_isBlind .console journal loggers hasRootHandler isSetUp
  next => rfl

/-- The handlers that a plan asks for, up to the first that is not made, over files and folders. -/
def outfit (plan : Plan) (files : LogFiles) (folders : Folders) : Journal × Except Fault Unit :=
  inOrder [fileStep plan, consoleStep plan] { files, folders }

/-- Loggers have no part in what handlers a package without handlers gets, nor the handlers in them. -/
theorem outfit_spec (plan : Plan) (journal : Journal) (bare : journal.handlers = []) :
    (inOrder [fileStep plan, consoleStep plan] journal).1.handlers =
        (outfit plan journal.files journal.folders).1.handlers ∧
      (inOrder [fileStep plan, consoleStep plan] journal).2 =
        (outfit plan journal.files journal.folders).2 ∧
      (inOrder [fileStep plan, consoleStep plan] journal).1.loggers = journal.loggers := by
  have blind : IsBlind (inOrder [fileStep plan, consoleStep plan]) :=
    inOrder_isBlind (by simp [fileStep_isBlind, consoleStep_isBlind])
  obtain ⟨loggers, handlers, hasRootHandler, isSetUp, files, folders⟩ := journal
  obtain rfl : handlers = [] := bare
  have same := blind { files, folders } loggers hasRootHandler isSetUp
  exact ⟨congrArg (·.1.handlers) same, congrArg (·.2) same, blind.loggers _⟩

end Blind

/-! The levels of the services. -/

/-- The level that a service gives its logger, if it does. -/
def givenBy? (service : Scalar × Value) : Option Level :=
  if service.1.isTooLong then none
  else (capitals service.2).toOption.bind fun name => (levelOf name).toOption

/-- The level that services give a logger: that of the last one that is about it, of those before
the first that gives none. -/
def levelFor? (name : String) : List (Scalar × Value) → Option Level
  | [] => none
  | service :: rest =>
    match givenBy? service with
    | none => none
    | some level => (levelFor? name rest).or (if loggerOf? service = some name then some level else none)

/-- The same of the services of a plan, which give no levels unless they are a map. -/
def levelIn? (name : String) : Value → Option Level
  | .map services => levelFor? name services
  | _ => none

section Services

variable {journal : Journal} {service : Scalar × Value} {name : String}

/-- A service gives its logger a level, or ends the setup. -/
theorem serviceStep_cases (inner : Loggers.isRoot name = false) (service : Scalar × Value)
    (journal : Journal) :
    (∃ level, givenBy? service = some level ∧ (serviceStep service journal).2 = .ok () ∧
      (serviceStep service journal).1.handlers = journal.handlers ∧
      (serviceStep service journal).1.loggers.level name =
        if loggerOf? service = some name then level else journal.loggers.level name) ∨
    givenBy? service = none ∧ ∃ fault, (serviceStep service journal).2 = .error fault ∧
      (serviceStep service journal).1.handlers = journal.handlers ∧
      (serviceStep service journal).1.loggers.level name = journal.loggers.level name := by
  unfold givenBy? serviceStep
  cases service.1.isTooLong with
  | true => exact .inr ⟨rfl, _, rfl, rfl, rfl⟩
  | false =>
    -- A logger that comes into being has no level yet.
    have created : ((loggerOf? service).elim journal journal.create).handlers = journal.handlers ∧
        ((loggerOf? service).elim journal journal.create).loggers.level name =
          journal.loggers.level name := by
      cases loggerOf? service with
      | none => exact ⟨rfl, rfl⟩
      | some logger => exact ⟨rfl, Loggers.level_create⟩
    cases capitals service.2 with
    | error misuse => exact .inr ⟨rfl, _, rfl, created⟩
    | ok capital =>
      cases isLevel : levelOf capital with
      | error fault =>
        refine .inr ⟨by simp [Except.toOption, isLevel], fault, ?_⟩
        simpa [withLevel, isLevel] using created
      | ok level =>
        refine .inl ⟨level, by simp [Except.toOption, isLevel], ?_⟩
        simp only [withLevel, isLevel, giveLevel, created.1, Bool.false_eq_true, if_false, true_and]
        rw [← created.2]
        cases loggerOf? service with
        | none => rfl
        | some logger => simp [Loggers.level_setLevel inner]

/-- What the services make of the level of a logger, and that they touch no handlers. -/
theorem services_spec (inner : Loggers.isRoot name = false) (services : List (Scalar × Value))
    (journal : Journal) :
    (inOrder (services.map serviceStep) journal).1.handlers = journal.handlers ∧
      (inOrder (services.map serviceStep) journal).1.loggers.level name =
        (levelFor? name services).getD (journal.loggers.level name) := by
  induction services generalizing journal with
  | nil => exact ⟨rfl, rfl⟩
  | cons service rest ih =>
    rw [List.map_cons, inOrder, levelFor?]
    obtain ⟨level, given, taken, handlers, levels⟩ | ⟨given, fault, stopped, handlers, levels⟩ :=
      serviceStep_cases inner service journal
    · rw [given]
      revert taken handlers levels
      rcases serviceStep service journal with ⟨next, _ | _⟩
      · intro taken
        simp at taken
      · intro _ handlers levels
        refine ⟨(ih next).1.trans handlers, (ih next).2.trans ?_⟩
        rw [levels]
        by_cases about : loggerOf? service = some name <;> cases levelFor? name rest <;> simp [about]
    · rw [given]
      revert stopped handlers levels
      rcases serviceStep service journal with ⟨next, _ | _⟩
      · exact fun _ handlers levels => ⟨handlers, levels⟩
      · intro stopped
        simp at stopped

/-- The services leave the handlers alone, and give a logger the last level that they have for it.
-/
theorem services_of_plan (inner : Loggers.isRoot name = false) (plan : Plan) (journal : Journal) :
    (inOrder [servicesStep plan, finish] journal).1.handlers = journal.handlers ∧
      (inOrder [servicesStep plan, finish] journal).1.loggers.level name =
        (levelIn? name plan.services).getD (journal.loggers.level name) := by
  have ended : (inOrder [servicesStep plan, finish] journal).1.handlers =
        (servicesStep plan journal).1.handlers ∧
      (inOrder [servicesStep plan, finish] journal).1.loggers =
        (servicesStep plan journal).1.loggers := by
    rw [inOrder]
    rcases servicesStep plan journal with ⟨next, _ | _⟩ <;> exact ⟨rfl, rfl⟩
  rw [ended.1, ended.2, servicesStep]
  cases plan.services with
  | map services => exact services_spec inner services journal
  | _ => exact ⟨rfl, rfl⟩

/-- The package is not the root. -/
theorem package_isInner : Loggers.isRoot package = false := by decide

/-- The logger of a service is below the package. -/
theorem package_ne_loggerOf (label : String) : package ≠ package ++ "." ++ label := by
  intro same
  have lengths := congrArg String.length same
  rw [String.length_append, String.length_append] at lengths
  have point : ".".length = 1 := rfl
  omega

/-- No logger of the package is the root. -/
theorem loggerOf_isInner (label : String) : Loggers.isRoot (package ++ "." ++ label) = false := by
  have longer (other : String) (short : other.length < 10) : package ++ "." ++ label ≠ other := by
    rintro rfl
    rw [String.length_append, String.length_append] at short
    have lengths : package.length = 9 ∧ ".".length = 1 := ⟨rfl, rfl⟩
    omega
  simp [Loggers.isRoot, longer "" (by decide), longer "root" (by decide)]

/-- The services never give the package a level. -/
theorem levelFor?_package (services : List (Scalar × Value)) : levelFor? package services = none := by
  induction services with
  | nil => rfl
  | cons service rest ih =>
    have below : loggerOf? service ≠ some package := by
      simp [loggerOf?, (package_ne_loggerOf _).symm]
    rw [levelFor?, ih]
    cases givenBy? service <;> simp [below]

end Services

/-! One setup. -/

/-- Whether a setup takes hold: its configuration is read and names a level for the package. -/
def TakesHold (config : Value) : Prop := ∃ plan, Plan.read config = .ok plan ∧ IsLevel plan.level

/-- Whether a setup over a journal gives a logger a level by way of the services, which come after the
handlers. -/
def Gives (config : Value) (journal : Journal) (name : String) (level : Level) : Prop :=
  ∃ plan, Plan.read config = .ok plan ∧ IsLevel plan.level ∧
    (outfit plan journal.files journal.folders).2 = .ok () ∧ levelIn? name plan.services = some level

section Once

variable {journal : Journal} {config : Value} {plan : Plan} {name : String} {level : Level}

/-- A setup that is read takes its steps in order. -/
theorem setUp_of_read (read : Plan.read config = .ok plan) : journal.setUp config =
    inOrder [packageStep plan, fileStep plan, consoleStep plan, servicesStep plan, finish]
      journal := by
  simp [Journal.setUp, read]

/-- A setup that succeeds takes hold. -/
theorem takesHold_of_setUp (succeeds : (journal.setUp config).2 = .ok ()) : TakesHold config := by
  cases read : Plan.read config with
  | error misuse => simp [Journal.setUp, read] at succeeds
  | ok plan =>
    rw [setUp_of_read read, inOrder_eq_ok_iff, packageStep_eq_ok_iff] at succeeds
    exact ⟨plan, read, succeeds.1⟩

/-- A setup that does not take hold stops before it has changed a level or a handler. -/
theorem setUp_of_not_takesHold (idle : ¬TakesHold config) (journal : Journal) :
    (journal.setUp config).1.handlers = journal.handlers ∧
      ∀ name, (journal.setUp config).1.loggers.level name = journal.loggers.level name := by
  cases read : Plan.read config with
  | error misuse => simp [Journal.setUp, read]
  | ok plan =>
    cases isLevel : levelOf plan.level with
    | ok level => exact absurd ⟨plan, read, level, isLevel⟩ idle
    | error fault =>
      rw [setUp_of_read read, inOrder]
      simp [packageStep, withLevel, isLevel, Journal.create]

/-- The handlers of a setup that takes hold are those of its plan. -/
theorem setUp_of_takesHold (read : Plan.read config = .ok plan)
    (isLevel : levelOf plan.level = .ok level) (inner : Loggers.isRoot name = false)
    (journal : Journal) :
    (journal.setUp config).1.handlers = (outfit plan journal.files journal.folders).1.handlers ∧
      (journal.setUp config).1.loggers.level name =
        (match (outfit plan journal.files journal.folders).2 with
          | .ok () => levelIn? name plan.services
          | .error _ => none).getD (if package = name then level else journal.loggers.level name) := by
  let begun : Journal := { journal with
    loggers := (journal.loggers.create package).setLevel package level, handlers := [] }
  have started : journal.setUp config =
      inOrder ([fileStep plan, consoleStep plan] ++ [servicesStep plan, finish]) begun := by
    rw [setUp_of_read read, inOrder]
    simp [packageStep, withLevel, isLevel, Journal.create, begun]
  have levelBegun : begun.loggers.level name =
      if package = name then level else journal.loggers.level name := by
    rw [Loggers.level_setLevel inner, Loggers.level_create]
  obtain ⟨handlers, outcome, loggers⟩ := outfit_spec plan begun rfl
  rw [started, inOrder_append, ← levelBegun, ← loggers]
  change _ = (outfit plan journal.files journal.folders).1.handlers at handlers
  change _ = (outfit plan journal.files journal.folders).2 at outcome
  rw [← handlers, ← outcome]
  rcases inOrder [fileStep plan, consoleStep plan] begun with ⟨next, fault | _⟩
  · simp
  · simpa using services_of_plan inner plan next

/-- The level of the package is that of the plan, whatever the services are called. -/
theorem setUp_package (read : Plan.read config = .ok plan) (isLevel : levelOf plan.level = .ok level)
    (journal : Journal) : (journal.setUp config).1.loggers.level package = level := by
  have silent : levelIn? package plan.services = none := by
    cases plan.services <;> simp [levelIn?, levelFor?_package]
  rw [(setUp_of_takesHold read isLevel package_isInner journal).2, silent]
  rcases (outfit plan journal.files journal.folders).2 with _ | _ <;> simp

/-- A setup that gives a logger a level does so whatever level the logger had. -/
theorem setUp_of_gives (inner : Loggers.isRoot name = false) (gives : Gives config journal name level) :
    (journal.setUp config).1.loggers.level name = level := by
  obtain ⟨plan, read, ⟨_, isLevel⟩, made, given⟩ := gives
  rw [(setUp_of_takesHold read isLevel inner journal).2, made]
  simp [given]

/-- A setup that gives a logger below the package no level leaves the one that it has. -/
theorem setUp_of_not_gives (inner : Loggers.isRoot name = false) (below : package ≠ name)
    (silent : ∀ level, ¬Gives config journal name level) :
    (journal.setUp config).1.loggers.level name = journal.loggers.level name := by
  by_cases holds : TakesHold config
  · obtain ⟨plan, read, ⟨_, isLevel⟩⟩ := holds
    rw [(setUp_of_takesHold read isLevel inner journal).2, if_neg below]
    cases made : (outfit plan journal.files journal.folders).2 with
    | error fault => rfl
    | ok done =>
      cases given : levelIn? name plan.services with
      | none => rfl
      | some level => exact absurd ⟨plan, read, ⟨_, isLevel⟩, made, given⟩ (silent level)
  · exact (setUp_of_not_takesHold holds journal).2 name

end Once

end Setup

/-! Histories of setups. -/

namespace Journal

open Setup

/-- The journal after a history of setups, whether they succeed or fail. -/
def setUpAll (journal : Journal) : List Value → Journal
  | [] => journal
  | config :: rest => (journal.setUp config).1.setUpAll rest

/-- A history after another goes on from its journal. -/
theorem setUpAll_append (journal : Journal) (before after : List Value) :
    journal.setUpAll (before ++ after) = (journal.setUpAll before).setUpAll after := by
  induction before generalizing journal with
  | nil => rfl
  | cons config rest ih => exact ih _

/-- A setup by itself, over the files and folders that another journal has found. -/
def alone (found : Journal) (config : Value) : Journal :=
  (({ files := found.files, folders := found.folders } : Journal).setUp config).1

/-- Whether no setup of a history gives a logger a level. -/
def Silent (name : String) : Journal → List Value → Prop
  | _, [] => True
  | journal, config :: rest =>
    (∀ level, ¬Gives config journal name level) ∧ Silent name (journal.setUp config).1 rest

section History

variable {journal : Journal} {configs : List Value} {name : String}

/-- Setups that do not take hold leave the handlers and the level of the package alone. -/
theorem setUpAll_of_idle (idle : ∀ config ∈ configs, ¬TakesHold config) (journal : Journal) :
    (journal.setUpAll configs).handlers = journal.handlers ∧
      (journal.setUpAll configs).loggers.level package = journal.loggers.level package := by
  induction configs generalizing journal with
  | nil => exact ⟨rfl, rfl⟩
  | cons config rest ih =>
    obtain ⟨handlers, level⟩ := setUp_of_not_takesHold (idle config (by simp)) journal
    have later := ih (fun config member => idle config (List.mem_cons_of_mem _ member))
      (journal.setUp config).1
    exact ⟨later.1.trans handlers, later.2.trans (level package)⟩

/-- A logger to which no setup gives a level keeps its own. -/
theorem setUpAll_of_silent (inner : Loggers.isRoot name = false) (below : package ≠ name)
    (silent : Silent name journal configs) :
    (journal.setUpAll configs).loggers.level name = journal.loggers.level name := by
  induction configs generalizing journal with
  | nil => rfl
  | cons config rest ih =>
    exact (ih silent.2).trans (setUp_of_not_gives inner below silent.1)

end History

/-- What a history of setups makes of the package and of the loggers of services. -/
structure Decided (start : Journal) (configs : List Value) : Prop where
  /-- A setup that succeeds takes hold. -/
  succeeded : ∀ config ∈ configs, ∀ journal : Journal, (journal.setUp config).2 = .ok () →
    TakesHold config
  /-- The last setup that takes hold decides the package as it would alone. -/
  ofPackage : ∀ before last after, configs = before ++ last :: after → TakesHold last →
    (∀ config ∈ after, ¬TakesHold config) →
      (start.setUpAll configs).handlers = (alone (start.setUpAll before) last).handlers ∧
        (start.setUpAll configs).loggers.level package =
          (alone (start.setUpAll before) last).loggers.level package
  untouched : (∀ config ∈ configs, ¬TakesHold config) →
    (start.setUpAll configs).handlers = start.handlers ∧
      (start.setUpAll configs).loggers.level package = start.loggers.level package
  /-- The last setup that gives the logger of a service a level decides that level. -/
  ofService : ∀ label before last after level, configs = before ++ last :: after →
    Gives last (start.setUpAll before) (package ++ "." ++ label) level →
    Silent (package ++ "." ++ label) ((start.setUpAll before).setUp last).1 after →
      (start.setUpAll configs).loggers.level (package ++ "." ++ label) = level
  silent : ∀ label, Silent (package ++ "." ++ label) start configs →
    (start.setUpAll configs).loggers.level (package ++ "." ++ label) =
      start.loggers.level (package ++ "." ++ label)

/-- Whatever logging was before, and however many setups succeed or fail: the package is as the last
setup that takes hold makes it, and each logger of a service has the level that it was given last. -/
theorem setUpAll_decided (start : Journal) (configs : List Value) : Decided start configs where
  succeeded := fun _ _ _ => takesHold_of_setUp
  ofPackage := by
    rintro before last after rfl ⟨plan, read, level, isLevel⟩ idle
    obtain ⟨handlers, levels⟩ :=
      setUpAll_of_idle idle ((start.setUpAll before).setUp last).1
    rw [setUpAll_append, setUpAll, alone, handlers, levels, setUp_package read isLevel,
      setUp_package read isLevel, (setUp_of_takesHold read isLevel package_isInner _).1,
      (setUp_of_takesHold read isLevel package_isInner _).1]
    exact ⟨rfl, rfl⟩
  untouched := fun idle => setUpAll_of_idle idle start
  ofService := by
    rintro label before last after level rfl gives silent
    rw [setUpAll_append, setUpAll,
      setUpAll_of_silent (loggerOf_isInner label) (package_ne_loggerOf label) silent]
    exact setUp_of_gives (loggerOf_isInner label) gives
  silent := fun label => setUpAll_of_silent (loggerOf_isInner label) (package_ne_loggerOf label)

/-! A setup that names a service, and one after it that does not. -/

namespace Leftover

/-- A configuration with a level for a service. -/
def naming : Value := .record [("logging", .record
  [("console", .bool false), ("services", .record [("dialer", .text "DEBUG")])])]

/-- A configuration without services. -/
def plain : Value := .record [("logging", .record [("console", .bool false)])]

/-- Both setups succeed. The level of the service outlasts the second, which alone gives it none. -/
theorem setUpAll_leftover :
    (({} : Journal).setUp naming).2 = .ok () ∧ ((({} : Journal).setUp naming).1.setUp plain).2 = .ok () ∧
      (({} : Journal).setUpAll [naming, plain]).loggers.level "callroute.dialer" = 10 ∧
      (({} : Journal).setUpAll [plain]).loggers.level "callroute.dialer" = 0 :=
  ⟨by rfl, by rfl, by rfl, by rfl⟩

end Leftover

end Journal

end Switchboard.Logging
