import Switchboard.Logging.Folder
import Switchboard.Logging.Loggers
import Switchboard.Logging.Structured

/-!
# The journal

The journal holds the logging of a process: its loggers, the handlers of the package and of the root, and the
files. A record goes to the handlers of the package and then to that of the root. If there is none at all on
its way, the bare message of a warning or worse goes to the error output.

Before logging is set up, the first one to ask for a logger gives the root a handler that writes to the error
output, and lowers the level of the root.
-/

namespace Switchboard.Logging

/-- A handler of the package. -/
inductive Handler where
  | file (path : String) (level : Level) (limit : Int) (backups : Value)
  | console (level : Level)

/-- How grave what a handler writes is at least. -/
def Handler.level : Handler → Level
  | .file _ level _ _ => level
  | .console level => level

/-- The loggers, the handlers of the package and the log files. -/
structure Journal where
  loggers : Loggers := {}
  handlers : List Handler := []
  hasRootHandler : Bool := false
  isSetUp : Bool := false
  files : LogFiles := []
  folders : Folders := []

/-- What is written to the two outputs of a process. -/
structure Output where
  standard : String := ""
  error : String := ""
deriving DecidableEq, Repr

namespace Journal

/-- Gives the root a handler, unless it has one. -/
def installRoot (journal : Journal) : Journal :=
  if journal.hasRootHandler then journal
  else
    { journal with
      hasRootHandler := true
      loggers := journal.loggers.setRootLevel Level.info }

/-- The logger of a full name comes into being. -/
def create (journal : Journal) (name : String) : Journal :=
  { journal with loggers := journal.loggers.create name }

/-- Asks for the logger of a name. -/
def obtain (journal : Journal) (name : String) : Journal :=
  (if journal.isSetUp then journal else journal.installRoot).create (qualify name)

/-- The handlers of the package that a record of a logger comes to. -/
def handlersFor (journal : Journal) (name : String) : List Handler :=
  if (name :: journal.loggers.lineage name).contains package then journal.handlers else []

/-- Hands a line to a handler of the package. -/
def handle (severity : Severity) (line : Line) (handler : Handler) (state : Journal × Output) :
    Journal × Output :=
  let (journal, output) := state
  if severity.number < handler.level then state
  else
    match handler with
    | .file path _ limit backups =>
      ({ journal with files := journal.files.write path limit backups line }, output)
    | .console _ => (journal, { output with standard := output.standard ++ line.text })

/-- Delivers a record that its logger lets through. -/
def deliver (journal : Journal) (name : String) (severity : Severity) (message : Message) :
    Journal × Output :=
  let handlers := journal.handlersFor name
  if handlers.isEmpty && !journal.hasRootHandler then
    (journal,
      { error := if severity.number < Level.warning then "" else message.text ++ "\n" })
  else
    let line := Line.of name severity message
    let (written, output) :=
      handlers.foldl (fun state handler => handle severity line handler state) (journal, {})
    (written, { output with error := if journal.hasRootHandler then line.text else "" })

/-- A record reaches a logger by its full name. -/
def record (journal : Journal) (name : String) (severity : Severity) (message : Message) :
    Journal × Output :=
  let asked := { journal with loggers := journal.loggers.settle name severity }
  if journal.loggers.admits name severity then asked.deliver name severity message
  else (asked, {})

/-- Writes a plain message. -/
def log (journal : Journal) (name : String) (severity : Severity) (text : String) :
    Journal × Output :=
  (journal.obtain name).record (qualify name) severity (.plain text)

/-- Writes a structured message. This does not give the root a handler. Once logging is set up, a message that
its logger does not let through is not made. -/
def logStructured (journal : Journal) (name : String) (severity : Severity) (event : String)
    (fields : List (Scalar × Value)) : Journal × Except StructuredFault Output :=
  let full := qualify name
  let created := journal.create full
  let write (message : Message) : Journal × Except StructuredFault Output :=
    let (next, output) := created.record full severity message
    (next, .ok output)
  match Message.givenTwice? severity fields, journal.isSetUp with
  | some fault, _ => (created, .error fault)
  | none, false => write (.structured fields (.text event) none severity)
  | none, true =>
    let asked := { created with loggers := created.loggers.settle full severity }
    if created.loggers.admits full severity then
      match Message.followed fields event full severity with
      | .ok message => write message
      | .error fault => (asked, .error fault)
    else (asked, .ok {})

/-- Writes a structured message by way of the logging that is set up. -/
def logStructuredInForce (journal : Journal) (name : String) (severity : Severity) (event : String)
    (fields : List (Scalar × Value)) : Journal × Except StructuredFault Output :=
  if journal.isSetUp then journal.logStructured name severity event fields
  else (journal, .error (.misuse (.lacksOperation .null "get_structured_logger")))

/-- The own and the effective level of loggers by full names, which come into being. -/
def levelsOf (journal : Journal) : List String → Journal × List (Level × Level)
  | [] => (journal, [])
  | name :: rest =>
    let created := journal.create name
    let (last, levels) := levelsOf created rest
    (last, (created.loggers.level name, created.loggers.effectiveLevel name) :: levels)

end Journal

end Switchboard.Logging
