/-!
# Levels

A logger or a handler lets a record through when the number of its severity reaches the level. Zero stands
for no level of its own. Configurations give levels by name.
-/

namespace Switchboard.Logging

/-- How grave what a logger lets pass is at least. -/
abbrev Level := Nat

namespace Level

/-- No level of its own. -/
def unset : Level := 0

/-- The level of informative records. -/
def info : Level := 20

/-- The level of warnings. -/
def warning : Level := 30

/-- The names of the levels, in capitals. -/
def names : List (String × Level) :=
  [ ("NOTSET", unset), ("DEBUG", 10), ("INFO", info), ("WARN", warning), ("WARNING", warning),
    ("ERROR", 40), ("CRITICAL", 50), ("FATAL", 50) ]

/-- Why a name gives no level. -/
inductive Fault where
  | unknown (name : String)
  /-- The name stands for a text. -/
  | notALevel (text : String)
  /-- The name stands for something that is neither a number nor a text, given by its literal. -/
  | neither (literal : String)
deriving DecidableEq, Repr

/-- What is said of what is no level. -/
def Fault.message : Fault → String
  | .unknown name => "module 'logging' has no attribute '" ++ name ++ "'"
  | .notALevel text => "Unknown level: '" ++ text ++ "'"
  | .neither literal => "Level not an integer or a valid string: " ++ literal

/-- The basic form of a line, which has a name among those of the levels. -/
def basicForm : String × String := ("BASIC_FORMAT", "%(levelname)s:%(name)s:%(message)s")

/-- The literal of one form of lines: its sign, the name of its kind, and the basic form written in it. -/
def formLiteral (form : String × String × String) : String :=
  "'" ++ form.1 ++ "': (<class 'logging." ++ form.2.1 ++ "'>, '" ++ form.2.2 ++ "')"

/-- The literal of the table of the forms of lines, which has a name among those of the levels as well. -/
def formsLiteral : String :=
  let forms :=
    [ ("%", "PercentStyle", basicForm.2),
      ("\x7b", "StrFormatStyle", "\x7blevelname\x7d:\x7bname\x7d:\x7bmessage\x7d"),
      ("$", "StringTemplateStyle", "$\x7blevelname\x7d:$\x7bname\x7d:$\x7bmessage\x7d") ]
  "\x7b" ++ String.intercalate ", " (forms.map formLiteral) ++ "\x7d"

/-- The level of a name in capitals. -/
def named (name : String) : Except Fault Level :=
  match names.find? fun entry => entry.1 = name with
  | some (_, level) => .ok level
  | none =>
    .error (if name = basicForm.1 then .notALevel basicForm.2
      else if name = "_STYLES" then .neither formsLiteral
      else .unknown name)

end Level

end Switchboard.Logging
