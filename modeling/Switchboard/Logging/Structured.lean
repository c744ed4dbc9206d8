import Switchboard.Entries
import Switchboard.Json.Line
import Switchboard.Logging.Line
import Switchboard.Value.Key
import Switchboard.Value.Template

/-!
# Structured messages

A structured message is a map in one line of JSON that holds the event, its severity, the time and whatever
fields came with it.

Once logging is set up some fields are more than a part of the message. Arguments are put into the event, which
then is a template. A record would name the logger, but no value has a name. What is to be told of a running
exception or of the calls under way is left out: there is no exception.
-/

namespace Switchboard.Logging

/-- The width of the time in a structured message, down to microseconds. -/
def stampWidth : Nat := 27

/-- Why a structured message is not made. -/
inductive StructuredFault where
  /-- There is no logging to ask. -/
  | misuse (misuse : Misuse)
  /-- A field has the name of an argument of the call. -/
  | givenTwice (call argument : String)
  | notFilled (fault : Template.Fault)

/-- What is said of a line that is not written. -/
def StructuredFault.message : StructuredFault → String
  | .givenTwice call argument => s!"BoundLogger.{call}() got multiple values for argument '{argument}'"
  | .notFilled fault => fault.message
  | .misuse fault => fault.message

namespace Message

/-- The name of a severity in a structured message. -/
def severityWord : Severity → String
  | .debug => "debug"
  | .info => "info"
  | .warning => "warning"
  | .error => "error"
  | .critical => "critical"

/-- A field that cannot be given, because the call has an argument of its name. -/
def givenTwice? (severity : Severity) (fields : List (Scalar × Value)) : Option StructuredFault :=
  let isArgument (key : Scalar) : Bool := key == .text "self" || key == .text "event"
  match (Entries.keys fields).find? isArgument with
  | some (.text argument) => some (.givenTwice (severityWord severity) argument)
  | _ =>
    if Entries.has (.text "method_name") fields then
      some (.givenTwice "_proxy_to_logger" "method_name")
    else none

/-- The fields of a structured message. Those that every message has replace given ones of the same name; a
logger is named once logging is set up. -/
def structuredFields (fields : List (Scalar × Value)) (event : Scalar) (logger : Option String)
    (severity : Severity) : List (Scalar × Value) :=
  let withEvent := Entries.put (.text "event") (.scalar event) fields
  let withLogger :=
    match logger with
    | some name => Entries.put (.text "logger") (.text name) withEvent
    | none => withEvent
  Entries.put (.text "timestamp") (.text timeMark)
    (Entries.put (.text "level") (.text (severityWord severity)) withLogger)

/-- A message that holds the given fields as they are. -/
def structured (fields : List (Scalar × Value)) (event : Scalar) (logger : Option String)
    (severity : Severity) : Message :=
  ⟨Json.line (.map (structuredFields fields event logger severity)),
    stampWidth - timeMark.length⟩

/-- The field of the arguments. -/
def argumentsKey : Scalar := .text "positional_args"

/-- What is put into the event: the arguments as one value, or what stands alone in them if it is a map that
holds something. A map with one entry is asked for what stands first, which it does not have. -/
def argumentOf : Value → Except Template.Fault Value
  | .list [.map (entry :: rest)] => .ok (.map (entry :: rest))
  | .map [_] => .error (.missingKey (.int 0))
  | .scalar (.text text) => .ok (.text text)
  | .scalar other => .error (.misuse (.uncountable (Value.scalar other).kind))
  | arguments => .ok arguments

/-- The event with its arguments. -/
def filledEvent (event : String) (fields : List (Scalar × Value)) : Except Template.Fault Scalar :=
  match Entries.get? argumentsKey fields with
  | none => .ok (.text event)
  | some arguments =>
    if arguments.isTruthy then do
      return .ofPoints (← Template.fill event (← argumentOf arguments))
    else .ok (.text event)

/-- The fields that are left once those with a meaning of their own were followed. -/
def withoutDirections (fields : List (Scalar × Value)) : List (Scalar × Value) :=
  let rest := Entries.erase (.text "stack_info") (Entries.erase (.text "exc_info") fields)
  match Entries.get? argumentsKey rest with
  | some .null => rest
  | _ => Entries.erase argumentsKey rest

/-- A message once logging is set up. -/
def followed (fields : List (Scalar × Value)) (event : String) (logger : String)
    (severity : Severity) : Except StructuredFault Message := do
  match Entries.get? (.text "_record") fields with
  | none | some .null => pure ()
  | some record => throw (.notFilled (.misuse (.lacksOperation record.kind "name")))
  let filled ← (filledEvent event fields).mapError .notFilled
  return structured (withoutDirections fields) filled (some logger) severity

end Message

end Switchboard.Logging
