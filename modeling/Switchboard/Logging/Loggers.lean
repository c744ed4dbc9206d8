import Switchboard.Entries
import Switchboard.Logging.Level
import Switchboard.Trace

/-!
# Loggers

Loggers have dotted names and come into being when they are first asked for. A logger without a level of its
own has the level of the nearest logger above it, and in the end that of the root. Whether it lets a severity
through is settled when the question first arises, and opened again whenever any level is set.
-/

namespace Switchboard.Logging

/-- The logger above all others of the library. -/
def package : String := "callroute"

/-- The full name of a logger: one that is not yet below the package is put there. -/
def qualify (name : String) : String :=
  if name = package || (package ++ ".").toList.isPrefixOf name.toList then name
  else package ++ "." ++ name

/-- The names above a name that are known, nearest first. Names are cut at their points from the end, and a
point right before a point just cut is passed over. All names are written backwards. -/
def above (known : List Char → Bool) : List Char → List (List Char)
  | [] => []
  | '.' :: c :: rest =>
    if known (c :: rest) then (c :: rest) :: above known (c :: rest) else above known rest
  | _ :: rest => above known rest

/-- The loggers that exist, by their names. -/
structure Loggers where
  rootLevel : Level := Level.warning
  /-- The level of each logger that exists, besides the root. -/
  levels : Entries String Level := []
  /-- What is settled about severities. -/
  settled : Entries (String × Severity) Bool := []

namespace Loggers

/-- Whether a name means the root. -/
def isRoot (name : String) : Bool := name = "" || name = "root"

/-- The logger of a name comes into being, if it does not exist. -/
def create (loggers : Loggers) (name : String) : Loggers :=
  if isRoot name || Entries.has name loggers.levels then loggers
  else { loggers with levels := Entries.put name Level.unset loggers.levels }

/-- The level of the logger itself. -/
def level (loggers : Loggers) (name : String) : Level :=
  if isRoot name then loggers.rootLevel
  else (Entries.get? name loggers.levels).getD Level.unset

/-- The loggers above a logger, nearest first, without the root. -/
def lineage (loggers : Loggers) (name : String) : List String :=
  (above (fun reversed => Entries.has (String.ofList reversed.reverse) loggers.levels)
    name.toList.reverse).map fun reversed => String.ofList reversed.reverse

/-- The level that counts for a logger. -/
def effectiveLevel (loggers : Loggers) (name : String) : Level :=
  (((name :: loggers.lineage name).map loggers.level).find? (· ≠ Level.unset)).getD
    loggers.rootLevel

/-- Gives a logger a level of its own. -/
def setLevel (loggers : Loggers) (name : String) (level : Level) : Loggers :=
  { loggers with levels := Entries.put name level loggers.levels, settled := [] }

/-- Gives the root a level. -/
def setRootLevel (loggers : Loggers) (level : Level) : Loggers :=
  { loggers with rootLevel := level, settled := [] }

/-- Whether a logger lets a severity through. -/
def admits (loggers : Loggers) (name : String) (severity : Severity) : Bool :=
  (Entries.get? (name, severity) loggers.settled).getD
    (loggers.effectiveLevel name ≤ severity.number)

/-- Settles whether a logger lets a severity through. -/
def settle (loggers : Loggers) (name : String) (severity : Severity) : Loggers :=
  { loggers with
    settled := Entries.put (name, severity) (loggers.admits name severity) loggers.settled }

end Loggers

end Switchboard.Logging
