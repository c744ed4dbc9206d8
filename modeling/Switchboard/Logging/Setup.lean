import Switchboard.Logging.Journal
import Switchboard.Number.Numeral
import Switchboard.Text.Case
import Switchboard.Value.Literal

/-!
# Setting up logging

Logging is set up from the section `logging` of a configuration, in steps: the package gets its level and
loses its handlers, a file handler and a console handler are added where the section asks for them, and the
services get their levels. Texts are turned into levels and sizes only when a step needs them. A step that
fails ends the setup, and what was done by then stays done. Loggers of services keep their levels through
later setups that do not name them.

Names of files and loggers are texts here. A file is not opened by a name that holds halves of pairs, and the
logger of a service that is called by such a name is not kept, which no other name means.
-/

namespace Switchboard.Logging

namespace Setup

/-- Why logging is not set up. -/
inductive Fault where
  | misuse (misuse : Misuse)
  | level (fault : Level.Fault)
  /-- A size is not read, or a number is too long to be written. -/
  | size (fault : Numeral.Fault)
  | path (fault : PathFault)
deriving DecidableEq, Repr

/-- What is said of a configuration that sets nothing up. -/
def Fault.message : Fault → String
  | .misuse fault => fault.message
  | .level fault => fault.message
  | .size fault => fault.message
  | .path fault => fault.message

/-- The units of sizes, by the ends of their texts. -/
def units : List (String × Nat) := [("KB", 1024), ("MB", 1024 * 1024), ("GB", 1024 * 1024 * 1024)]

/-- The text before an ending, if the text ends so. -/
def beforeEnding? (ending text : String) : Option String :=
  if ending.toList.isSuffixOf text.toList then
    some (String.ofList (text.toList.take (text.length - ending.length)))
  else none

/-- A size as it is shown. Halves of pairs are no digits, and do not become any by being joined. -/
def sizeText : Value → String
  | .scalar (.halved points) => Text.ofPoints points
  | size => size.shown

/-- Reads a size in bytes: a whole number, with or without a unit in any letter case. -/
def readSize (size : Value) : Except Numeral.Fault Int :=
  let text := Text.upper (sizeText size)
  let inUnit (unit : String × Nat) : Option (String × Nat) :=
    (beforeEnding? unit.1 text).map fun number => (number, unit.2)
  if size.isTooLong then .error .unwritten
  else
    match units.findSome? inUnit with
    | some (number, factor) => (Numeral.readInt number).map fun count => count * factor
    | none => Numeral.readInt text

/-- The fields of a map; anything else does not offer the operation that is asked of it. -/
def fieldsOf (operation : String) : Value → Except Misuse (List (Scalar × Value))
  | .map entries => .ok entries
  | other => .error (.lacksOperation other.kind operation)

/-- A text in capitals; octets have them as well. -/
def capitals : Value → Except Misuse Scalar
  | .text characters => .ok (.text (Text.upper characters))
  | .scalar (.halved points) => .ok (.halved (Text.mapPoints Text.upper points))
  | .scalar (.octets content) => .ok (.octets (content.map Text.capitalOctet))
  | other => .error (.lacksOperation other.kind "upper")

/-- The level of a name in capitals, which must be a text. -/
def levelOf : Scalar → Except Fault Level
  | .text name => (Level.named name).mapError .level
  | .halved points => .error (.level (.unknown (Text.joined points)))
  | other => .error (.misuse (.notAName other.kind))

/-- What a configuration asks for. -/
structure Plan where
  level : Scalar
  consoleLevel : Scalar
  file : Value
  maxSize : Value
  backups : Value
  console : Value
  services : Value

/-- What stands under a key, or is usual where nothing does. -/
def entry (key : String) (usual : Value) (entries : List (Scalar × Value)) : Value :=
  (Entries.get? (.text key) entries).getD usual

/-- What a section asks for, once its levels are in capitals. -/
def Plan.ofSection (fields : List (Scalar × Value)) (level consoleLevel : Scalar) : Plan where
  level := level
  consoleLevel := consoleLevel
  file := entry "file" .null fields
  maxSize := entry "max_size" (.text "10MB") fields
  backups := entry "backup_count" (.int 5) fields
  console := entry "console" (.bool true) fields
  services := entry "services" (.map []) fields

/-- What a configuration says, or leaves to be as usual. -/
def Plan.read (config : Value) : Except Misuse Plan := do
  let settings ← fieldsOf "get" (entry "logging" (.map []) (← fieldsOf "get" config))
  let level ← capitals (entry "level" (.text "INFO") settings)
  let consoleLevel ← capitals (entry "console_level" (.scalar level) settings)
  return .ofSection settings level consoleLevel

/-- A step changes the journal, and may end the setup. -/
abbrev Step := Journal → Journal × Except Fault Unit

/-- Takes steps until one fails. -/
def inOrder : List Step → Step
  | [], journal => (journal, .ok ())
  | step :: rest, journal =>
    match step journal with
    | (next, .ok ()) => inOrder rest next
    | (stopped, .error fault) => (stopped, .error fault)

/-- Goes on with a level, if the name gives one. -/
def withLevel (name : Scalar) (use : Level → Journal → Journal) : Step := fun journal =>
  match levelOf name with
  | .ok level => (use level journal, .ok ())
  | .error fault => (journal, .error fault)

/-- The package gets its level and loses its handlers. -/
def packageStep (plan : Plan) : Step := fun journal =>
  withLevel plan.level
    (fun level journal =>
      { journal with loggers := journal.loggers.setLevel package level, handlers := [] })
    (journal.create package)

/-- The parts of a path; one that does not start in the working folder begins with a slash. -/
def partsOf (path : String) : List String :=
  if Path.isRooted path then "/" :: Path.parts path else Path.parts path

/-- The folder of a log file is made. -/
def folderStep (parts : List String) : Step := fun journal =>
  let folder := parts.dropLast
  if folder.any (·.contains '\x00') then (journal, .error (.path .nullCharacter))
  else
    let (folders, outcome) := journal.folders.make journal.files Folders.missingLimit folder.reverse
    ({ journal with folders }, outcome.mapError .path)

/-- Why a file cannot be opened at a place. -/
def openFault? (journal : Journal) (place : Path.Place) : Option PathFault :=
  if place.any (·.contains '\x00') then some .nullCharacter
  else if place.any (Path.nameLimit < ·.utf8ByteSize) then some (.nameTooLong place.path)
  else if journal.folders.isFolder? journal.files place = some true then
    some (.fileIsFolder place.path)
  else none

/-- Opens a log file and adds its handler. -/
def openFile (plan : Plan) (place : Path.Place) : Step := fun journal =>
  match readSize plan.maxSize with
  | .error fault => (journal, .error (.size fault))
  | .ok limit =>
    match openFault? journal place with
    | some fault => (journal, .error (.path fault))
    | none =>
      withLevel plan.level
        (fun level journal =>
          { journal with
            handlers := journal.handlers ++ [.file place.path level limit plan.backups] })
        { journal with files := journal.files.ensure place.path }

/-- The file handler is added, if a file is asked for. The file is where its path leads once parts that lead
back are followed. A text that holds halves of pairs is taken for no path; no statement is made about one. -/
def fileStep (plan : Plan) : Step := fun journal =>
  if !plan.file.isTruthy then (journal, .ok ())
  else
    match plan.file with
    | .text written =>
      let parts := partsOf written
      inOrder [folderStep parts, openFile plan (Path.Place.ofParts parts)] journal
    | other => (journal, .error (.misuse (.notAPath other.kind)))

/-- The console handler is added, if one is asked for. -/
def consoleStep (plan : Plan) : Step := fun journal =>
  if plan.console.isTruthy then
    withLevel plan.consoleLevel
      (fun level journal => { journal with handlers := journal.handlers ++ [.console level] })
      journal
  else (journal, .ok ())

/-- What a service is called by, as it is shown. A text that holds halves of pairs is called by no text. -/
def serviceName? : Scalar → Option String
  | .halved _ => none
  | key => some key.shown

/-- The logger of a service, if its name is a text. -/
def loggerOf? (service : Scalar × Value) : Option String :=
  (serviceName? service.1).map fun label => package ++ "." ++ label

/-- Gives a logger a level. What is settled is opened again, also by one that has no text for its name, which is
not kept here. -/
def giveLevel (logger? : Option String) (level : Level) (loggers : Loggers) : Loggers :=
  match logger? with
  | some logger => loggers.setLevel logger level
  | none => { loggers with settled := [] }

/-- A service gets its level. Its logger comes into being before, if its name can be written. -/
def serviceStep (service : Scalar × Value) : Step := fun journal =>
  let created := (loggerOf? service).elim journal journal.create
  if service.1.isTooLong then (journal, .error (.size .unwritten))
  else
    match capitals service.2 with
    | .error misuse => (created, .error (.misuse misuse))
    | .ok name =>
      withLevel name (fun level journal =>
        { journal with loggers := giveLevel (loggerOf? service) level journal.loggers }) created

/-- Gives the services their levels, in order. -/
def servicesStep (plan : Plan) : Step := fun journal =>
  match fieldsOf "items" plan.services with
  | .error misuse => (journal, .error (.misuse misuse))
  | .ok services => inOrder (services.map serviceStep) journal

/-- Logging counts as set up. -/
def finish : Step := fun journal => ({ journal with isSetUp := true }, .ok ())

end Setup

namespace Journal

open Setup

/-- Reads a size by way of the logging that is set up. -/
def readSize (journal : Journal) (size : Value) : Except Setup.Fault Int :=
  if journal.isSetUp then (Setup.readSize size).mapError .size
  else .error (.misuse (.lacksOperation .null "_parse_size"))

/-- Sets up logging. -/
def setUp (journal : Journal) (config : Value) : Journal × Except Setup.Fault Unit :=
  match Plan.read config with
  | .error misuse => (journal, .error (.misuse misuse))
  | .ok plan =>
    inOrder [packageStep plan, fileStep plan, consoleStep plan, servicesStep plan, finish] journal

end Journal

end Switchboard.Logging
