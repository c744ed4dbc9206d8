import Switchboard.Settings.Builtin
import Switchboard.Text.BlankDigit
import Switchboard.Text.Case
import Switchboard.Value.Literal

/-!
# Checking settings

Loaded settings are refused when one of the rules below does not hold; all the rules that are broken are
reported together, in the order of the rules.
-/

namespace Switchboard.Settings

/-- A rule that settings break, with the value that breaks it. -/
inductive Problem where
  | missingSection (name : String)
  | logLevel (found : Value)
  | serviceName (found : Value)
  | timeout (found : Value)
  | baseUrl (found : Value)
  | classList (key : String)

/-- What is said of a broken rule. -/
def Problem.message : Problem → String
  | .missingSection name => "Missing required configuration section: " ++ name
  | .logLevel found => "Invalid log level: " ++ found.shown
  | .serviceName found => "Invalid emergency classifier service name: " ++ found.literal
  | .timeout found => "Invalid emergency classifier timeout: " ++ found.literal
  | .baseUrl found => "Invalid emergency classifier base URL: " ++ found.literal
  | .classList key => key ++ " must be a list of strings"

/-- Why the message of a problem is not made, if it is not: the value in it has no literal. A level is shown, and
its literal is a part of that. -/
def Problem.obstacle? : Problem → Option Unwritable
  | .logLevel found => found.obstacle? (literalDepth - 1)
  | .serviceName found | .timeout found | .baseUrl found => found.obstacle? literalDepth
  | .missingSection _ | .classList _ => none

/-- The sections that must be present, whatever they hold. -/
def requiredSections : List String := ["logging", "telephony"]

/-- The level names that settings may use, in capitals. -/
def levelNames : List String := ["DEBUG", "INFO", "WARNING", "ERROR", "CRITICAL"]

/-- A level is named in any letter case. -/
def isLevelName : Value → Bool
  | .text name => levelNames.contains (Text.upper name)
  | _ => false

/-- A service name is a text that is not blank. -/
def isServiceName : Value → Bool
  | .text name => !Text.isBlankText name
  | .scalar (.halved _) => true
  | _ => false

/-- A timeout is a number above zero. What is not a number is not refused, because it is not zero or less. -/
def isTimeout : Value → Bool
  | .int number => 0 < number
  | .float number => !number.isNonPositive
  | _ => false

/-- A base URL is a text, or null for none. -/
def isBaseUrl (value : Value) : Bool := value.kind = .null || value.kind = .text

/-- Whether a value is a text. -/
def isText (value : Value) : Bool := value.kind = .text

/-- A list of components is a list of texts. -/
def isTextList : Value → Bool
  | .list items => items.all isText
  | _ => false

/-- The problem, unless the rule holds. -/
def reportUnless (holds : Bool) (problem : Problem) : List Problem :=
  if holds then [] else [problem]

/-- Whether a text is part of another one. -/
def isWithin (part : List Char) : List Char → Bool
  | [] => part.isEmpty
  | c :: rest => part.isPrefixOf (c :: rest) || isWithin part rest

/-- Whether a value holds a name: a map as a key, a set as a member, a list or a pair as an item, a text as a
part of itself. -/
def holds (name : String) : Value → Except Misuse Bool
  | .map entries => .ok (Entries.has (.text name) entries)
  | .set members => .ok (members.any (.text name == ·))
  | .list items => .ok (items.any (isNamed name))
  | .pair first second => .ok (isNamed name first || isNamed name second)
  | .text characters => .ok (isWithin name.toList characters.toList)
  | .scalar (.halved _) | .again _ => .ok false
  | .scalar (.octets _) => .error .octetsLikeWanted
  | .scalar content => .error (.notSearchable content.kind)
where
  /-- Whether a value is a name. -/
  isNamed (name : String) : Value → Bool
    | .text item => item = name
    | _ => false

/-- Whether a configuration has a section, whatever stands in it. -/
def hasSection (name : String) (config : Graph) : Except Misuse Bool :=
  match config.root.map? config.shelf with
  | some (_, branches) => .ok (Entries.has (.text name) branches)
  | none => holds name config.value

/-- The sections that are missing, in order. -/
def missingSections (config : Graph) : List String → Except Misuse (List Problem)
  | [] => .ok []
  | name :: rest => do
    let present ← hasSection name config
    let others ← missingSections config rest
    return reportUnless present (.missingSection name) ++ others

/-- The rules that a configuration breaks. One that is no map says nothing. -/
def problems (config : Graph) : Except Misuse (List Problem) := do
  let missing ← missingSections config requiredSections
  let level := config.get logLevelKey (.text "INFO")
  let name := config.get serviceNameKey .null
  let limit := config.get timeoutKey .null
  let url := config.get baseUrlKey .null
  return missing ++
    reportUnless (isLevelName level) (.logLevel level) ++
    reportUnless (isServiceName name) (.serviceName name) ++
    reportUnless (isTimeout limit) (.timeout limit) ++
    reportUnless (isBaseUrl url) (.baseUrl url) ++
    [dialerClassesKey, inCallClassesKey].flatMap fun key =>
      reportUnless (isTextList (config.get key (.list []))) (.classList key)

end Switchboard.Settings
