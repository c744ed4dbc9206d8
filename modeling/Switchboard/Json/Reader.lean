import Switchboard.Entries
import Switchboard.Number.Numeral
import Switchboard.Text.CodePoint
import Switchboard.Value.Key

/-!
# Reading JSON

The whole text must be one value between blanks. Besides the numbers of the format, the names of the two
infinities and of the number that is none are read. A key that is written twice keeps its place and takes the
later value. Control characters inside a text must be escaped, and what is escaped may be a half of a pair. Lists
and maps may stand in one another up to a depth.
-/

namespace Switchboard.Json

/-- Why a text is not read: it is not well formed, or it holds a whole number that is too long, or a list or map
inside too many others. -/
inductive Fault where
  | malformed
  | number (fault : Numeral.Fault)
  | tooDeep (kind : Kind)
deriving DecidableEq, Repr

/-- How many lists and maps may stand in one another. So many does the limit of recursion leave to a program that
reads from its top. -/
def depthLimit : Nat := 988

/-- Whether a character may stand between values. -/
def isSpace (c : Char) : Bool := c = ' ' || c = '\t' || c = '\n' || c = '\r'

/-- What follows the blanks at the front. -/
def skipSpace (characters : List Char) : List Char := characters.dropWhile isSpace

/-- The character that a one-letter escape stands for. -/
def simpleEscape? : Char → Option Char
  | '"' => some '"'
  | '\\' => some '\\'
  | '/' => some '/'
  | 'b' => some '\x08'
  | 'f' => some '\x0c'
  | 'n' => some '\n'
  | 'r' => some '\r'
  | 't' => some '\t'
  | _ => none

/-- The code unit of an escape at the front of a list, and what follows it. -/
def nextUnit? : List Char → Option (Nat × List Char)
  | '\\' :: 'u' :: rest => Text.readHexadecimal? 4 0 rest
  | _ => none

/-- The code point of an escape by code unit, given what follows its mark. The two halves of a pair, one after
the other, are one character. -/
def readEscape? (characters : List Char) : Option (Nat × List Char) := do
  let (unit, rest) ← Text.readHexadecimal? 4 0 characters
  let paired : Option (Nat × List Char) := do
    let (low, after) ← nextUnit? rest
    return ((← Text.pairedChar? unit low).toNat, after)
  return paired.getD (unit, rest)

/-- The rest of a text after its opening quote, by its code points, and what follows the closing one. The fuel
bounds the number of characters. -/
def readText? : (fuel : Nat) → List Char → Option (List Nat × List Char)
  | 0, _ => none
  | _, [] => none
  | fuel + 1, c :: rest =>
    if c = '"' then some ([], rest)
    else if c = '\\' then
      match rest with
      | [] => none
      | mark :: after =>
        let escaped :=
          if mark = 'u' then readEscape? after
          else (simpleEscape? mark).map fun escape => (escape.toNat, after)
        match escaped with
        | none => none
        | some (read, following) =>
          (readText? fuel following).map fun result => (read :: result.1, result.2)
    else if c.toNat < 0x20 then none
    else (readText? fuel rest).map fun result => (c.toNat :: result.1, result.2)

/-- The digits of a whole number without superfluous zeros, and what follows them. -/
def readWhole? : List Char → Option (List Char × List Char)
  | [] => none
  | c :: rest =>
    if c = '0' then some (['0'], rest)
    else if Numeral.isPlainDigit c then
      some (c :: rest.takeWhile Numeral.isPlainDigit, rest.dropWhile Numeral.isPlainDigit)
    else none

/-- A point with digits after it, if the rest begins so. -/
def splitFraction (characters : List Char) : List Char × List Char :=
  match characters with
  | '.' :: rest =>
    let digits := rest.takeWhile Numeral.isPlainDigit
    if digits.isEmpty then ([], characters) else (digits, rest.dropWhile Numeral.isPlainDigit)
  | _ => ([], characters)

/-- An exponent, if the rest begins with a complete one. -/
def splitExponent (characters : List Char) : Option Int × List Char :=
  match characters with
  | mark :: rest =>
    if mark = 'e' || mark = 'E' then
      let (negative, body) := Numeral.splitSign rest
      let digits := body.takeWhile Numeral.isPlainDigit
      if digits.isEmpty then (none, characters)
      else
        let value : Int := Numeral.valueOf 10 digits
        (some (if negative then -value else value), body.dropWhile Numeral.isPlainDigit)
    else (none, characters)
  | [] => (none, characters)

/-- A number at the front of a list, and what follows it. A number with a fraction or an exponent is rounded,
any other is exact. -/
def readNumber (characters : List Char) : Except Fault (Value × List Char) :=
  let (negative, body) :=
    match characters with
    | '-' :: rest => (true, rest)
    | _ => (false, characters)
  match readWhole? body with
  | none => .error .malformed
  | some (whole, rest) =>
    let (fraction, afterFraction) := splitFraction rest
    let (exponent, after) := splitExponent afterFraction
    if fraction.isEmpty && exponent.isNone then
      match Numeral.readDigits negative whole with
      | .ok number => .ok (.int number, rest)
      | .error fault => .error (.number fault)
    else
      let digits := Numeral.valueOf 10 (whole ++ fraction)
      .ok (.float (Binary64.ofDecimal negative digits (exponent.getD 0 - fraction.length)), after)

/-- The values that are written as a word. -/
def wordValues : List (List Char × Value) :=
  [ ("null".toList, .null), ("true".toList, .bool true), ("false".toList, .bool false),
    ("NaN".toList, .float .notANumber), ("Infinity".toList, .float (.infinity false)),
    ("-Infinity".toList, .float (.infinity true)) ]

/-- The word at the front of a list, and what follows it. -/
def readWord? (characters : List Char) : Option (Value × List Char) :=
  (wordValues.find? fun entry => entry.1.isPrefixOf characters).map fun entry =>
    (entry.2, characters.drop entry.1.length)

mutual

/-- A value at the front of a list, and what follows it; `room` is how many lists and maps may stand in one
another in it. -/
def readValue (room : Nat) : (fuel : Nat) → List Char → Except Fault (Value × List Char)
  | 0, _ => .error .malformed
  | fuel + 1, characters =>
    match characters, room with
    | '\x7b' :: _, 0 => .error (.tooDeep .map)
    | '[' :: _, 0 => .error (.tooDeep .list)
    | '\x7b' :: rest, inner + 1 =>
      match skipSpace rest with
      | '\x7d' :: after => .ok (.map [], after)
      | after => (readFields inner fuel [] after).map fun read => (.map read.1, read.2)
    | '[' :: rest, inner + 1 =>
      match skipSpace rest with
      | ']' :: after => .ok (.list [], after)
      | after => (readItems inner fuel after).map fun read => (.list read.1, read.2)
    | '"' :: rest, _ =>
      match readText? (rest.length + 1) rest with
      | some (text, after) => .ok (.scalar (.ofPoints text), after)
      | none => .error .malformed
    | _, _ =>
      match readWord? characters with
      | some found => .ok found
      | none => readNumber characters

/-- The items of a list from an item on, and what follows the list. -/
def readItems (room : Nat) : (fuel : Nat) → List Char → Except Fault (List Value × List Char)
  | 0, _ => .error .malformed
  | fuel + 1, characters => do
    let (item, rest) ← readValue room fuel characters
    match skipSpace rest with
    | ']' :: after => return ([item], after)
    | ',' :: after =>
      let (others, following) ← readItems room fuel (skipSpace after)
      return (item :: others, following)
    | _ => throw .malformed

/-- The fields of a map from a key on, after the fields already read, and what follows the map. -/
def readFields (room : Nat) : (fuel : Nat) → List (Scalar × Value) → List Char →
    Except Fault (List (Scalar × Value) × List Char)
  | 0, _, _ => .error .malformed
  | fuel + 1, fields, characters =>
    match characters with
    | '"' :: rest =>
      match readText? (rest.length + 1) rest with
      | none => .error .malformed
      | some (key, afterKey) =>
        match skipSpace afterKey with
        | ':' :: afterColon => do
          let (item, afterItem) ← readValue room fuel (skipSpace afterColon)
          let read := Entries.put (.ofPoints key) item fields
          match skipSpace afterItem with
          | '\x7d' :: after => return (read, after)
          | ',' :: after => readFields room fuel read (skipSpace after)
          | _ => throw .malformed
        | _ => .error .malformed
    | _ => .error .malformed

end

/-- The value that a whole text writes. -/
def read (text : String) : Except Fault Value := do
  let (value, rest) ← readValue depthLimit (2 * text.length + 2) (skipSpace text.toList)
  if (skipSpace rest).isEmpty then return value else throw .malformed

end Switchboard.Json
