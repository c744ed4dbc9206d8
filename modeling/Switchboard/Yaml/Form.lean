import Switchboard.Text.Split
import Switchboard.Yaml.Tag
import Switchboard.Yaml.Timestamp

/-!
# What a plain text means

A plain text is null, a truth value, a number, a day or a time when it has the form of one, and a text
otherwise. Whole numbers are written in base two, eight, ten or sixteen, or in parts of sixty; other numbers
have a point. An underscore between digits says nothing.
-/

namespace Switchboard.Yaml

/-- The words that are not texts. -/
def words : List (String × Tag) :=
  (["~", "null", "Null", "NULL"].map fun word => (word, .null)) ++
    (["yes", "Yes", "YES", "true", "True", "TRUE", "on", "On", "ON", "no", "No", "NO", "false",
      "False", "FALSE", "off", "Off", "OFF"].map fun word => (word, .bool)) ++
    ([".inf", ".Inf", ".INF", "+.inf", "+.Inf", "+.INF", "-.inf", "-.Inf", "-.INF", ".nan", ".NaN",
      ".NAN"].map fun word => (word, .float)) ++
    [("<<", .merge), ("=", .standIn), ("!", .other), ("&", .other), ("*", .other)]

/-- Whether digits of a base are all that is left apart from underscores. -/
def isDigitsOf (base : Nat) (characters : List Char) : Bool :=
  !characters.isEmpty && characters.all fun c =>
    c = '_' || (Text.hexadecimalValue? c).any (· < base)

/-- Whether a part of a number in parts of sixty is well formed: one digit, or two of which the first is at
most five. -/
def isSixtieth : List Char → Bool
  | [c] => Numeral.isPlainDigit c
  | [c, d] => '0' ≤ c && c ≤ '5' && Numeral.isPlainDigit d
  | _ => false

/-- Whether a text without its sign has the form of a whole number. -/
def isWholeForm (characters : List Char) : Bool :=
  let parts := Text.pieces ':' characters
  match characters with
  | [] => false
  | ['0'] => true
  | '0' :: 'b' :: digits => isDigitsOf 2 digits
  | '0' :: 'x' :: digits => isDigitsOf 16 digits
  | '0' :: digits => isDigitsOf 8 digits
  | first :: _ =>
    '1' ≤ first && first ≤ '9' && isDigitsOf 10 (parts.headD []) && parts.tail.all isSixtieth

/-- Whether an exponent is complete: a mark, a sign and digits; or there is none. -/
def isExponent : List Char → Bool
  | [] => true
  | mark :: sign :: digits =>
    (mark = 'e' || mark = 'E') && (sign = '+' || sign = '-') && !digits.isEmpty &&
      digits.all Numeral.isPlainDigit
  | [_] => false

/-- Whether a text without its sign has the form of a number with a point. -/
def isPointedForm (signed : Bool) (characters : List Char) : Bool :=
  let isDigitOrUnderscore (c : Char) : Bool := Numeral.isPlainDigit c || c = '_'
  let starts (digits : List Char) : Bool := digits.head?.any Numeral.isPlainDigit
  let whole := characters.takeWhile isDigitOrUnderscore
  match characters.dropWhile isDigitOrUnderscore with
  | '.' :: rest =>
    let fraction := rest.takeWhile isDigitOrUnderscore
    (if whole.isEmpty then starts fraction && !signed else starts whole) &&
      isExponent (rest.dropWhile isDigitOrUnderscore)
  | ':' :: rest =>
    let parts := Text.pieces ':' rest
    let last := parts.getLastD []
    let seconds := last.takeWhile Numeral.isPlainDigit
    match last.dropWhile Numeral.isPlainDigit with
    | '.' :: fraction =>
      starts whole && (parts.dropLast ++ [seconds]).all isSixtieth &&
        fraction.all isDigitOrUnderscore
    | _ => false
  | _ => false

/-- The tag that the form of a text asks for; there is something in the text. -/
def Tag.ofForm (characters : List Char) : Tag :=
  let body := (Numeral.splitSign characters).2
  if isPointedForm (body.length < characters.length) body then .float
  else if isWholeForm body then .int
  else if (readTimestamp? true characters).isSome then .timestamp
  else .text

/-- The tag of a plain text, which is given by its code points. A line break at its end says nothing. -/
def Tag.ofPlain (points : List Nat) : Tag :=
  if points.isEmpty then .null
  else if points.any Text.isHalf then .text
  else
    let characters := withoutLastFeed (points.map Char.ofNat)
    (words.lookup (String.ofList characters)).getD (Tag.ofForm characters)

end Switchboard.Yaml
