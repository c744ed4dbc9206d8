import Switchboard.Settings.Builtin
import Switchboard.Settings.File

/-!
# Settings from environment variables

Four variables set one dotted key each. A truth value in any letter case is one, digits are a whole number,
and anything else is a text; only the timeout is read as any number, and warned about when it is none.

The text of a variable is taken to be one: octets that are none, which stand in it as halves of pairs, are no
input here.
-/

namespace Switchboard.Settings

/-- The environment variables that are set. -/
abbrev Environment := Entries String String

/-- The variables that are asked for, with the keys that they set. -/
def variableKeys : List (String × String) :=
  [ ("CALLROUTE_LOG_LEVEL", logLevelKey), ("CALLROUTE_CLASSIFIER_ENABLED", enabledKey),
    ("CALLROUTE_CLASSIFIER_URL", baseUrlKey), ("CALLROUTE_CLASSIFIER_TIMEOUT", timeoutKey) ]

/-- What the text of a variable says: a value, or nothing because it is not the number that it should be. -/
def readVariable (key text : String) : Except Numeral.Fault (Option Value) :=
  let small := Text.lower text
  if small = "true" then .ok (some (.bool true))
  else if small = "false" then .ok (some (.bool false))
  else if Text.isDigits text then (Numeral.readInt text).map fun number => some (.int number)
  else if key = timeoutKey then .ok ((Numeral.readFloat? text).map .float)
  else .ok (some (.text text))

/-- Adds what the listed variables say to settings. -/
def addVariables (environment : Environment) (settings : Section) :
    List (String × String) → Traced Fault Section
  | [] => .ok settings
  | (name, key) :: rest =>
    match Entries.get? name environment with
    | none => addVariables environment settings rest
    | some text =>
      match readVariable key text with
      | .error fault => .fail (.number fault)
      | .ok (some value) => addVariables environment (settings.set key value) rest
      | .ok none => do
        Traced.log .warning logger s!"Invalid number in {name}: {text}"
        addVariables environment settings rest

/-- The layer of settings that the environment makes. -/
def readEnvironment (environment : Environment) : Traced Fault Section :=
  addVariables environment [] variableKeys

end Switchboard.Settings
