import Switchboard.Text.CodePoint
import Switchboard.Value.Literal

/-!
# Values as one line of JSON

Items and fields are separated by a comma and a space, keys from values by a colon and a space. Every
character outside ASCII is escaped by its code point, or by the two halves of a pair. Keys that are not
texts are written as texts. A day, a time, octets and a set are written as the text of their literal, and
cannot be keys; a pair is written as a list. A half of a pair of its own is escaped like a character.
-/

namespace Switchboard.Json

/-- Infinities and the number that is none, as a line names them. -/
def words : Binary64.Words := ⟨"Infinity", "NaN"⟩

/-- The escape of one 16-bit unit. -/
def escapedUnit (unit : Nat) : List Char :=
  '\\' :: 'u' :: Text.hexadecimal 4 unit

/-- A character as it stands in a line. -/
def escapedChar (c : Char) : List Char :=
  if c = '"' || c = '\\' then ['\\', c]
  else if c = '\n' then ['\\', 'n']
  else if c = '\r' then ['\\', 'r']
  else if c = '\t' then ['\\', 't']
  else if c.toNat = 0x08 then ['\\', 'b']
  else if c.toNat = 0x0C then ['\\', 'f']
  else if ' ' ≤ c && c ≤ '~' then [c]
  else if c.toNat < 0x10000 then escapedUnit c.toNat
  else
    let above := c.toNat - 0x10000
    escapedUnit (0xD800 + above / 0x400) ++ escapedUnit (0xDC00 + above % 0x400)

/-- A text in a line. -/
def textLine (text : String) : String :=
  String.ofList ('"' :: (text.toList.flatMap escapedChar ++ ['"']))

/-- A code point as it stands in a line, a half of a pair by its own escape. -/
def pointLine (point : Nat) : List Char :=
  if Text.isHalf point then escapedUnit point else escapedChar (Char.ofNat point)

/-- A text that is given by its code points. -/
def pointsLine (points : List Nat) : String :=
  String.ofList ('"' :: (points.flatMap pointLine ++ ['"']))

/-- A scalar in a line. -/
def scalarLine : Scalar → String
  | .null => "null"
  | .bool true => "true"
  | .bool false => "false"
  | .int number => toString number
  | .float number => number.text words
  | .text text => textLine text
  | .halved points => pointsLine points
  | .date day => textLine day.literal
  | .moment time => textLine time.literal
  | .octets content => textLine (Scalar.octets content).literal

/-- A key is always a text. -/
def keyLine : Scalar → String
  | .text text => textLine text
  | .halved points => pointsLine points
  | other => textLine (scalarLine other)

mutual

/-- A value in a line. -/
def line : Value → String
  | .scalar content => scalarLine content
  | .list items => "[" ++ String.intercalate ", " (itemLines items) ++ "]"
  | .map entries => "\x7b" ++ String.intercalate ", " (entryLines entries) ++ "\x7d"
  | .pair first second => "[" ++ line first ++ ", " ++ line second ++ "]"
  | .set members => textLine (Value.setLiteral members)
  | .again kind => textLine (Value.againLiteral kind)

/-- The items of a list, each in a line. -/
def itemLines : List Value → List String
  | [] => []
  | item :: rest => line item :: itemLines rest

/-- The entries of a map, each in a line. -/
def entryLines : List (Scalar × Value) → List String
  | [] => []
  | (key, item) :: rest => (keyLine key ++ ": " ++ line item) :: entryLines rest

end

/-- Why a scalar is not written. -/
def scalarObstacle? (content : Scalar) : Option Unwritable :=
  if content.isTooLong then some (.tooLong Numeral.digitLimit) else none

/-- Why a key is not written. -/
def keyObstacle? : Scalar → Option Unwritable
  | .date _ => some (.key .date)
  | .moment _ => some (.key .moment)
  | .octets _ => some (.key .octets)
  | other => scalarObstacle? other

mutual

/-- The first reason why a value has no line. -/
def obstacle? : Value → Option Unwritable
  | .scalar content => scalarObstacle? content
  | .list items => itemObstacle? items
  | .map entries => entryObstacle? entries
  | .pair first second => obstacle? first <|> obstacle? second
  | .set members => if members.any Scalar.isTooLong then some (.tooLong Numeral.digitLimit) else none
  | .again _ => some .circular

/-- The first obstacle to a line among items. -/
def itemObstacle? : List Value → Option Unwritable
  | [] => none
  | item :: rest => obstacle? item <|> itemObstacle? rest

/-- The first obstacle to a line among entries. -/
def entryObstacle? : List (Scalar × Value) → Option Unwritable
  | [] => none
  | (key, item) :: rest => keyObstacle? key <|> obstacle? item <|> entryObstacle? rest

end

end Switchboard.Json
