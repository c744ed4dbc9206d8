import Switchboard.Calendar
import Switchboard.Number.Binary64
import Switchboard.Text.CodePoint

/-!
# Values

Configuration, replies of an authority and the fields of a log line are values: scalars, lists, and maps
whose keys are scalars and keep the order in which they were written. A file may also write octets, sets and
lists of pairs.
-/

namespace Switchboard

/-- The kinds of values, as messages name them. -/
inductive Kind where
  | null | bool | int | float | text | date | moment | octets | list | map | pair | set
deriving DecidableEq, Repr

/-- How a kind is called in messages. -/
def Kind.name : Kind → String
  | .null => "NoneType"
  | .bool => "bool"
  | .int => "int"
  | .float => "float"
  | .text => "str"
  | .date => "datetime.date"
  | .moment => "datetime.datetime"
  | .octets => "bytes"
  | .list => "list"
  | .map => "dict"
  | .pair => "tuple"
  | .set => "set"

/-- A value that holds no other values. -/
inductive Scalar where
  | null
  | bool (answer : Bool)
  | int (number : Int)
  | float (number : Binary64)
  | text (characters : String)
  /-- A text that holds halves of pairs, by its code points. -/
  | halved (points : List Nat)
  | date (day : Date)
  | moment (time : Moment)
  | octets (content : List UInt8)
deriving Repr

/-- The text of code points. -/
def Scalar.ofPoints (points : List Nat) : Scalar :=
  if points.any Text.isHalf then .halved points else .text (Text.ofPoints points)

/-- A value of a configuration: a scalar or a collection. -/
inductive Value where
  | scalar (content : Scalar)
  | list (items : List Value)
  | map (entries : List (Scalar × Value))
  | pair (first second : Value)
  | set (members : List Scalar)
  /-- A collection at a place inside itself. -/
  | again (kind : Kind)
deriving Repr

/-- There is a value, the null. -/
instance : Inhabited Value := ⟨.scalar .null⟩

namespace Value

/-- The null. -/
@[match_pattern] abbrev null : Value := .scalar .null

/-- A truth value. -/
@[match_pattern] abbrev bool (answer : Bool) : Value := .scalar (.bool answer)

/-- A whole number. -/
@[match_pattern] abbrev int (number : Int) : Value := .scalar (.int number)

/-- A number with a fraction. -/
@[match_pattern] abbrev float (number : Binary64) : Value := .scalar (.float number)

/-- A text without halves of pairs. -/
@[match_pattern] abbrev text (characters : String) : Value := .scalar (.text characters)

/-- A map whose keys are texts. -/
def record (fields : List (String × Value)) : Value :=
  .map (fields.map fun field => (.text field.1, field.2))

end Value

/-- The kind of a scalar. A text with halves is a text. -/
def Scalar.kind : Scalar → Kind
  | .null => .null
  | .bool _ => .bool
  | .int _ => .int
  | .float _ => .float
  | .text _ | .halved _ => .text
  | .date _ => .date
  | .moment _ => .moment
  | .octets _ => .octets

/-- Zero of either number type, the empty text, no octets, null and false count as false. -/
def Scalar.isTruthy : Scalar → Bool
  | .null => false
  | .bool answer => answer
  | .int number => number ≠ 0
  | .float number => !number.isZero
  | .text characters => characters ≠ ""
  | .octets content => !content.isEmpty
  | .halved _ | .date _ | .moment _ => true

namespace Value

/-- The kind of a value. -/
def kind : Value → Kind
  | .scalar content => content.kind
  | .list _ => .list
  | .map _ => .map
  | .pair _ _ => .pair
  | .set _ => .set
  | .again kind => kind

/-- A collection counts as true when it is not empty. -/
def isTruthy : Value → Bool
  | .scalar content => content.isTruthy
  | .list items => !items.isEmpty
  | .map entries => !entries.isEmpty
  | .set members => !members.isEmpty
  | .pair _ _ | .again _ => true

mutual

/-- The value in which every number that is none has the given mark. -/
def marked (mark : Mark) : Value → Value
  | .float number => .float (if number.isNotANumber then .notANumberMarked mark else number)
  | .scalar content => .scalar content
  | .list items => .list (markedItems mark items)
  | .map entries => .map (markedEntries mark entries)
  | .pair first second => .pair (first.marked mark) (second.marked mark)
  | other => other

/-- Marks the numbers in items. -/
def markedItems (mark : Mark) : List Value → List Value
  | [] => []
  | item :: rest => item.marked mark :: markedItems mark rest

/-- Marks the numbers in entries. -/
def markedEntries (mark : Mark) : List (Scalar × Value) → List (Scalar × Value)
  | [] => []
  | (key, item) :: rest => (key, item.marked mark) :: markedEntries mark rest

end

end Value

/-- A value used for something that its kind does not offer. -/
inductive Misuse where
  | notIterable (kind : Kind)
  | notSearchable (kind : Kind)
  | lacksOperation (kind : Kind) (operation : String)
  | notAKey (kind : Kind)
  | unordered (left right : Kind)
  | notAPath (kind : Kind)
  | notAnIndex (kind : Kind)
  | uncountable (kind : Kind)
  /-- Octets were searched for a text. -/
  | octetsWanted
  /-- Octets were stripped of a text. -/
  | octetsLikeWanted
  | notSearchableText (kind : Kind)
  /-- Something else than a text was taken for the name of something. -/
  | notAName (kind : Kind)
deriving DecidableEq, Repr

/-- What is said of a misuse. -/
def Misuse.message : Misuse → String
  | .notIterable kind => "'" ++ kind.name ++ "' object is not iterable"
  | .notSearchable kind => "argument of type '" ++ kind.name ++ "' is not iterable"
  | .lacksOperation kind operation =>
    "'" ++ kind.name ++ "' object has no attribute '" ++ operation ++ "'"
  | .notAKey kind => "unhashable type: '" ++ kind.name ++ "'"
  | .unordered .moment .moment => "can't compare offset-naive and offset-aware datetimes"
  | .unordered .date .moment | .unordered .moment .date =>
    "can't compare datetime.datetime to datetime.date"
  | .unordered left right =>
    "'<' not supported between instances of '" ++ left.name ++ "' and '" ++ right.name ++ "'"
  | .notAPath .octets =>
    "argument should be a str object or an os.PathLike object returning str, not <class 'bytes'>"
  | .notAPath kind => "expected str, bytes or os.PathLike object, not " ++ kind.name
  | .notAnIndex kind => "list indices must be integers or slices, not " ++ kind.name
  | .uncountable kind => "object of type '" ++ kind.name ++ "' has no len()"
  | .octetsWanted => "argument should be integer or bytes-like object, not 'str'"
  | .octetsLikeWanted => "a bytes-like object is required, not 'str'"
  | .notSearchableText kind => "expected string or bytes-like object, got '" ++ kind.name ++ "'"
  | .notAName kind => "attribute name must be string, not '" ++ kind.name ++ "'"

end Switchboard
