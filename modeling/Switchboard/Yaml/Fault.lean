import Switchboard.Value.Literal

/-!
# Why a YAML text is not read

A text is malformed, is never finished, or writes a scalar that does not exist.
-/

namespace Switchboard.Yaml

/-- Why a scalar is not made. Texts are given by their code points. -/
inductive ScalarFault where
  /-- An escape names no character. -/
  | codePoint
  /-- The number of an escape is beyond all code points. -/
  | codeRange
  /-- A word is no truth value. -/
  | word (text : List Nat)
  /-- Nothing is left of a number without its underscores and its sign. -/
  | noDigits
  | notWhole (base : Nat) (text : List Nat)
  | notReal (text : List Nat)
  | number (fault : Numeral.Fault)
  /-- A part of a number has too large a weight. -/
  | tooManyParts
  | calendar (fault : CalendarFault)
  | misuse (misuse : Misuse)
deriving DecidableEq, Repr

/-- What is said of a scalar that is not made. -/
def ScalarFault.message : ScalarFault → String
  | .codePoint => "chr() arg not in range(0x110000)"
  | .codeRange => "Python int too large to convert to C int"
  | .word text => Text.quotedPoints text
  | .noDigits => "string index out of range"
  | .notWhole base text => Numeral.malformedNote base (Text.quotedPoints text)
  | .notReal text => "could not convert string to float: " ++ Text.quotedPoints text
  | .number fault => fault.message
  | .tooManyParts => "int too large to convert to float"
  | .calendar fault => fault.message
  | .misuse fault => fault.message

/-- Why a text is not read. -/
inductive Fault where
  | malformed
  /-- The text ends within quotes. -/
  | unclosed
  /-- The bytes of the text are not well formed. -/
  | undecodable
  /-- A collection stands inside too many others, or a scalar is that of the collection it stands for. -/
  | tooDeep
  | scalar (fault : ScalarFault)
deriving DecidableEq, Repr

end Switchboard.Yaml
