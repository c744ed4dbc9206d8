import Switchboard.Number.Numeral
import Switchboard.Number.Shortest
import Switchboard.Text.Encoding
import Switchboard.Text.Octets
import Switchboard.Value

/-!
# Values inside messages

The literal of a value quotes its texts and shows the order of lists and maps. A text that stands alone is
shown as it is, and so is a day or a time. A collection inside itself is three points between its brackets.

Whole numbers above a number of digits are not written, and parts that stand inside too many others are not
either; a message that would hold one is not made.
-/

namespace Switchboard

/-- Infinities and the number that is none, as literals name them. -/
def literalWords : Binary64.Words := ⟨"inf", "nan"⟩

/-- A number with zeros in front up to a width. -/
def padded (width number : Nat) : String :=
  let digits := Nat.toDigits 10 number
  String.ofList (List.replicate (width - digits.length) '0' ++ digits)

/-- A day as it is shown. -/
def Date.shown (date : Date) : String :=
  padded 4 date.year ++ "-" ++ padded 2 date.month ++ "-" ++ padded 2 date.day

/-- The year, month and day of a date, as they stand in a literal. -/
def Date.parts (date : Date) : String := s!"{date.year}, {date.month}, {date.day}"

/-- The literal of a date. -/
def Date.literal (date : Date) : String := "datetime.date(" ++ date.parts ++ ")"

/-- A span of minutes as a literal: whole days, which may be below zero, and seconds. -/
def spanLiteral (minutes : Int) : String :=
  let days := minutes.fdiv (24 * 60)
  let seconds := minutes.fmod (24 * 60) * 60
  let named := (if days = 0 then [] else [s!"days={days}"]) ++
    (if seconds = 0 then [] else [s!"seconds={seconds}"])
  "datetime.timedelta(" ++ (if named.isEmpty then "0" else String.intercalate ", " named) ++ ")"

namespace Moment

/-- How far a clock is ahead, as it is shown. -/
def offsetShown (minutes : Int) : String :=
  (if minutes < 0 then "-" else "+") ++ padded 2 (minutes.natAbs / 60) ++ ":" ++
    padded 2 (minutes.natAbs % 60)

/-- A time as it is shown; no microseconds are not. -/
def shown (moment : Moment) : String :=
  moment.date.shown ++ " " ++ padded 2 moment.hour ++ ":" ++ padded 2 moment.minute ++ ":" ++
    padded 2 moment.second ++
    (if moment.microsecond = 0 then "" else "." ++ padded 6 moment.microsecond) ++
    (moment.offset.map offsetShown).getD ""

/-- The literal of a clock that tells how far it is ahead. -/
def zoneLiteral (minutes : Int) : String :=
  if minutes = 0 then "datetime.timezone.utc"
  else "datetime.timezone(" ++ spanLiteral minutes ++ ")"

/-- No microseconds are left out, and no seconds before them. -/
def literal (moment : Moment) : String :=
  let fine :=
    if moment.microsecond ≠ 0 then s!", {moment.second}, {moment.microsecond}"
    else if moment.second ≠ 0 then s!", {moment.second}"
    else ""
  "datetime.datetime(" ++ moment.date.parts ++ s!", {moment.hour}, {moment.minute}" ++ fine ++
    ((moment.offset.map fun minutes => ", tzinfo=" ++ zoneLiteral minutes).getD "") ++ ")"

end Moment

/-- What is said of a number that the calendar does not have. -/
def CalendarFault.message : CalendarFault → String
  | .year found => s!"year {found} is out of range"
  | .month => "month must be in 1..12"
  | .day => "day is out of range for month"
  | .hour => "hour must be in 0..23"
  | .minute => "minute must be in 0..59"
  | .second => "second must be in 0..59"
  | .offset minutes =>
    "offset must be a timedelta strictly between -timedelta(hours=24) and timedelta(hours=24), not " ++
      spanLiteral minutes ++ "."

/-- The literal of a scalar. -/
def Scalar.literal : Scalar → String
  | .null => "None"
  | .bool true => "True"
  | .bool false => "False"
  | .int number => toString number
  | .float number => number.text literalWords
  | .text characters => Text.quoted characters
  | .halved points => Text.quotedPoints points
  | .date day => day.literal
  | .moment time => time.literal
  | .octets content => Text.octetsLiteral content

namespace Value

/-- A collection inside itself. -/
def againLiteral : Kind → String
  | .map => "\x7b...\x7d"
  | .pair => "(...)"
  | _ => "[...]"

/-- A set without members is not written like a map without entries. -/
def setLiteral (members : List Scalar) : String :=
  if members.isEmpty then "set()"
  else "\x7b" ++ String.intercalate ", " (members.map Scalar.literal) ++ "\x7d"

mutual

/-- The literal of a value. -/
def literal : Value → String
  | .scalar content => content.literal
  | .list items => "[" ++ String.intercalate ", " (itemLiterals items) ++ "]"
  | .map entries => "\x7b" ++ String.intercalate ", " (entryLiterals entries) ++ "\x7d"
  | .pair first second => "(" ++ first.literal ++ ", " ++ second.literal ++ ")"
  | .set members => setLiteral members
  | .again kind => againLiteral kind

/-- The literals of items. -/
def itemLiterals : List Value → List String
  | [] => []
  | item :: rest => item.literal :: itemLiterals rest

/-- The literals of entries. -/
def entryLiterals : List (Scalar × Value) → List String
  | [] => []
  | (key, item) :: rest => (key.literal ++ ": " ++ item.literal) :: entryLiterals rest

end

end Value

/-- A text, a day and a time as they are, anything else as its literal. -/
def Scalar.shown : Scalar → String
  | .text characters => characters
  | .halved points => Text.joined points
  | .date day => day.shown
  | .moment time => time.shown
  | content => content.literal

/-- A scalar as it is shown, anything else as its literal. -/
def Value.shown : Value → String
  | .scalar content => content.shown
  | other => other.literal

/-- Whether a scalar is a whole number with too many digits. -/
def Scalar.isTooLong : Scalar → Bool
  | .int number => Nat.pow 10 Numeral.digitLimit ≤ number.natAbs
  | _ => false

/-- No text is a number too long to write. -/
theorem Scalar.isTooLong_of_text {content : Scalar} (isText : content.kind = .text) :
    content.isTooLong = false := by
  cases content with
  | int number => contradiction
  | _ => rfl

namespace Value

mutual

/-- Whether a value holds a whole number with too many digits. -/
def isTooLong : Value → Bool
  | .scalar content => content.isTooLong
  | .list items => anyTooLong items
  | .map entries => anyEntryTooLong entries
  | .pair first second => first.isTooLong || second.isTooLong
  | .set members => members.any Scalar.isTooLong
  | .again _ => false

/-- Whether an item holds a number that is too long to write. -/
def anyTooLong : List Value → Bool
  | [] => false
  | item :: rest => item.isTooLong || anyTooLong rest

/-- Whether an entry holds a number that is too long to write. -/
def anyEntryTooLong : List (Scalar × Value) → Bool
  | [] => false
  | (key, item) :: rest => key.isTooLong || item.isTooLong || anyEntryTooLong rest

end

end Value

/-- Why a value is not written. -/
inductive Unwritable where
  /-- A whole number has more digits than the limit. -/
  | tooLong (limit : Nat)
  /-- A part stands inside too many others. -/
  | tooDeep
  /-- A text holds halves of pairs. -/
  | halves (stretch : Text.Stretch)
  /-- A kind of key cannot stand in a line of JSON. -/
  | key (kind : Kind)
  /-- A collection stands inside itself. -/
  | circular
deriving DecidableEq, Repr

/-- What is said of a value that is not written. -/
def Unwritable.message : Unwritable → String
  | .tooLong limit => Numeral.unwrittenNote limit
  | .tooDeep => "maximum recursion depth exceeded while getting the repr of an object"
  | .halves stretch => stretch.note
  | .key kind => "keys must be str, int, float, bool or None, not " ++ kind.name
  | .circular => "Circular reference detected"

/-- How many parts of a literal may stand in one another, the whole being one. So many does the limit of recursion
leave to a program that asks from its top. -/
def literalDepth : Nat := 990

/-- How many parts the literal of a scalar takes: a clock that tells how far it is ahead is a part of its time,
and has a span of time in it unless it is not ahead at all. -/
def Scalar.depth : Scalar → Nat
  | .moment time =>
    match time.offset with
    | none => 1
    | some 0 => 2
    | some _ => 3
  | _ => 1

/-- Why the literal of a scalar is not made where there is room for so many parts, if it is not. -/
def Scalar.obstacle? (room : Nat) (content : Scalar) : Option Unwritable :=
  if room < content.depth then some .tooDeep
  else if content.isTooLong then some (.tooLong Numeral.digitLimit)
  else none

namespace Value

/-- Why the literal of a set is not made. The list of its members is a part of its own. -/
def setObstacle? (room : Nat) (members : List Scalar) : Option Unwritable :=
  if members.isEmpty then none
  else if room = 0 then some .tooDeep
  else members.findSome? (Scalar.obstacle? (room - 1))

mutual

/-- Why the literal of a value is not made where there is room for so many parts, if it is not. What is written
first is found first. -/
def obstacle? (room : Nat) : Value → Option Unwritable
  | .scalar content => content.obstacle? room
  | .list items => if room = 0 then some .tooDeep else itemObstacle? (room - 1) items
  | .map entries => if room = 0 then some .tooDeep else entryObstacle? (room - 1) entries
  | .pair first second =>
    if room = 0 then some .tooDeep
    else first.obstacle? (room - 1) <|> second.obstacle? (room - 1)
  | .set members => if room = 0 then some .tooDeep else setObstacle? (room - 1) members
  | .again _ => if room = 0 then some .tooDeep else none

/-- The first obstacle to writing items. -/
def itemObstacle? (room : Nat) : List Value → Option Unwritable
  | [] => none
  | item :: rest => item.obstacle? room <|> itemObstacle? room rest

/-- The first obstacle to writing entries. -/
def entryObstacle? (room : Nat) : List (Scalar × Value) → Option Unwritable
  | [] => none
  | (key, item) :: rest => key.obstacle? room <|> item.obstacle? room <|> entryObstacle? room rest

end

end Value

end Switchboard
