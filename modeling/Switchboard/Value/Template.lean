import Switchboard.Entries
import Switchboard.Number.Places
import Switchboard.Text.CodePoint
import Switchboard.Value.Key
import Switchboard.Value.Literal

/-!
# Templates

A template is a text with directives, each begun by a percent sign, for which a value is put in; two percent
signs stand for one. One value is given for the whole template, and is used up by the first directive; but a
directive with a key takes what stands under that key. A directive says how its value is written: as a text or
a literal, as a whole number in some base, or as a decimal; and in which width, with which sign and to how many
places.

A value that is no map or list must be used up.
-/

namespace Switchboard.Template

/-- Why a template is not filled. -/
inductive Fault where
  | tooFewValues
  | unusedValue
  | needsMapping
  | missingKey (key : Scalar)
  | misuse (misuse : Misuse)
  | unfinished
  | unfinishedKey
  | unsupported (directive : Char) (index : Nat)
  | widthTooBig
  | precisionTooBig
  | countNotWhole
  | countOutOfRange (unit : String)
  | notANumber (directive : Char) (kind : Kind)
  | notWhole (directive : Char) (kind : Kind)
  | notReal (kind : Kind)
  | noWholeOfNaN
  | noWholeOfInfinity
  | tooLargeForFloat
  | notACharacter
  | noSuchCharacter

/-- What is said of a template that is not filled. -/
def Fault.message : Fault → String
  | .tooFewValues => "not enough arguments for format string"
  | .unusedValue => "not all arguments converted during string formatting"
  | .needsMapping => "format requires a mapping"
  | .missingKey key => key.literal
  | .misuse fault => fault.message
  | .unfinished => "incomplete format"
  | .unfinishedKey => "incomplete format key"
  | .unsupported directive index =>
    let shown := if 31 ≤ directive.toNat && directive.toNat < 127 then directive else '?'
    "unsupported format character '" ++ String.ofList [shown] ++ "' (0x" ++
      String.ofList (Text.hexadecimal 1 directive.toNat) ++ s!") at index {index}"
  | .widthTooBig => "width too big"
  | .precisionTooBig => "precision too big"
  | .countNotWhole => "* wants int"
  | .countOutOfRange unit => "Python int too large to convert to C " ++ unit
  | .notANumber directive kind =>
    "%" ++ String.ofList [directive] ++ " format: a real number is required, not " ++ kind.name
  | .notWhole directive kind =>
    "%" ++ String.ofList [directive] ++ " format: an integer is required, not " ++ kind.name
  | .notReal kind => "must be real number, not " ++ kind.name
  | .noWholeOfNaN => "cannot convert float NaN to integer"
  | .noWholeOfInfinity => "cannot convert float infinity to integer"
  | .tooLargeForFloat => "int too large to convert to float"
  | .notACharacter => "%c requires int or char"
  | .noSuchCharacter => "%c arg not in range(0x110000)"

/-- How a directive asks for its value to be written. -/
structure Manner where
  toTheLeft : Bool := false
  plus : Bool := false
  blank : Bool := false
  alternate : Bool := false
  zeros : Bool := false
  width : Nat := 0
  precision : Option Nat := none

/-- Reads the flags at the front of a directive. -/
def readFlags (manner : Manner) : List Char → Manner × List Char
  | '-' :: rest => readFlags { manner with toTheLeft := true } rest
  | '+' :: rest => readFlags { manner with plus := true } rest
  | ' ' :: rest => readFlags { manner with blank := true } rest
  | '#' :: rest => readFlags { manner with alternate := true } rest
  | '0' :: rest => readFlags { manner with zeros := true } rest
  | rest => (manner, rest)

/-- A directive being read: its manner, the value that is not used up yet, and what follows. -/
structure Reading where
  manner : Manner
  unused : Option Value
  rest : List Char

/-- The whole number that a value is; truth values are zero and one. -/
def wholeOf? : Value → Option Int
  | .int number => some number
  | .bool answer => some (if answer then 1 else 0)
  | _ => none

/-- Takes the value that is not used up. -/
def takeValue (reading : Reading) : Except Fault (Value × Reading) :=
  match reading.unused with
  | some value => .ok (value, { reading with unused := none })
  | none => .error .tooFewValues

/-- What bounds a count. -/
structure Bound where
  limit : Nat
  unit : String
  tooBig : Fault

/-- The width of a directive has 64 bits, one of them for the sign. -/
def widthBound : Bound := ⟨Nat.pow 2 63 - 1, "ssize_t", .widthTooBig⟩

/-- The precision of a directive has 32 bits, one of them for the sign. -/
def precisionBound : Bound := ⟨Nat.pow 2 31 - 1, "int", .precisionTooBig⟩

/-- A count at the front: digits, or a star for which the value is taken; no count is none. -/
def readCount (bound : Bound) (reading : Reading) : Except Fault (Option Int × Reading) :=
  match reading.rest with
  | '*' :: rest => do
    let (value, taken) ← takeValue { reading with rest }
    match wholeOf? value with
    | none => throw .countNotWhole
    | some count =>
      if count < -(bound.limit : Int) - 1 || (bound.limit : Int) < count then
        throw (.countOutOfRange bound.unit)
      return (some count, taken)
  | characters =>
    let digits := characters.takeWhile Numeral.isPlainDigit
    let count := Numeral.valueOf 10 digits
    if digits.isEmpty then .ok (none, reading)
    else if bound.limit < count then .error bound.tooBig
    else .ok (some count, { reading with rest := characters.dropWhile Numeral.isPlainDigit })

/-- Reads the width. A width below zero asks for the left. -/
def readWidth (reading : Reading) : Except Fault Reading := do
  match ← readCount widthBound reading with
  | (none, after) => return after
  | (some count, after) =>
    let manner := { after.manner with
      width := count.natAbs, toTheLeft := after.manner.toTheLeft || count < 0 }
    return { after with manner }

/-- Reads the precision behind a point; nothing behind it, or less than nothing, is zero. -/
def readPrecision (reading : Reading) : Except Fault Reading := do
  match reading.rest with
  | '.' :: rest =>
    let (count, after) ← readCount precisionBound { reading with rest }
    return { after with manner := { after.manner with precision := some (count.getD 0).toNat } }
  | _ => return reading

/-- Drops a mark of length, which says nothing. -/
def skipLength : List Char → List Char
  | 'h' :: rest | 'l' :: rest | 'L' :: rest => rest
  | rest => rest

/-- The key up to its closing bracket, and what follows it; brackets in it are balanced. -/
def splitKey? : (depth : Nat) → List Char → Option (List Char × List Char)
  | _, [] => none
  | 0, ')' :: rest => some ([], rest)
  | depth + 1, ')' :: rest => (splitKey? depth rest).map fun split => (')' :: split.1, split.2)
  | depth, c :: rest =>
    (splitKey? (if c = '(' then depth + 1 else depth) rest).map fun split =>
      (c :: split.1, split.2)

/-- What stands under a key of the value that the template is given. -/
def lookUp (source : Value) (key : String) : Except Fault Value :=
  match source with
  | .map entries =>
    match Entries.get? (.text key) entries with
    | some value => .ok value
    | none => .error (.missingKey (.text key))
  | .list _ => .error (.misuse (.notAnIndex .text))
  | _ => .error .needsMapping

/-- Whether directives with a key may be asked of a value. -/
def takesKeys : Value → Bool
  | .map _ | .list _ => true
  | _ => false

/-- Reads a key, if there is one. -/
def readKey (source : Value) (unused : Option Value) (characters : List Char) :
    Except Fault Reading :=
  match characters with
  | '(' :: rest =>
    if !takesKeys source then .error .needsMapping
    else
      match splitKey? 0 rest with
      | none => .error .unfinishedKey
      | some (key, after) => do
        return { manner := {}, unused := some (← lookUp source (String.ofList key)), rest := after }
  | _ => .ok { manner := {}, unused, rest := characters }

/-- Text in its place: cut to the precision where that counts characters, with its sign, and filled up to the
width. A number may be filled up with zeros behind its sign and the mark of its base. -/
def layOut (manner : Manner) (isNumber : Bool) (mark : List Char) (text : List Char) : List Char :=
  let (sign, body) :=
    if !isNumber then ([], text)
    else
      match text with
      | '-' :: rest => (['-'], rest)
      | _ => (if manner.plus then ['+'] else if manner.blank then [' '] else [], text)
  let filling := manner.width - (sign.length + mark.length + body.length)
  if manner.toTheLeft then sign ++ mark ++ body ++ List.replicate filling ' '
  else if isNumber && manner.zeros then sign ++ mark ++ List.replicate filling '0' ++ body
  else List.replicate filling ' ' ++ sign ++ mark ++ body

/-- A text in its place. -/
def layOutText (manner : Manner) (text : String) : List Char :=
  let characters := text.toList
  layOut manner false [] (manner.precision.elim characters characters.take)

/-- A literal in which every character outside ASCII is escaped. -/
def asciiLiteral (text : String) : String :=
  String.ofList (text.toList.flatMap fun c =>
    if c.toNat < 128 then [c]
    else if c.toNat < 0x100 then '\\' :: 'x' :: Text.hexadecimal 2 c.toNat
    else if c.toNat < 0x10000 then '\\' :: 'u' :: Text.hexadecimal 4 c.toNat
    else '\\' :: 'U' :: Text.hexadecimal 8 c.toNat)

/-- The whole part of a number. -/
def wholePart (directive : Char) (value : Value) : Except Fault Int :=
  match value, wholeOf? value with
  | _, some number => .ok number
  | .float number, none =>
    match number.isInfinite, number.fraction? with
    | true, _ => .error .noWholeOfInfinity
    | false, some (numerator, denominator) => .ok (numerator.tdiv denominator)
    | false, none => .error .noWholeOfNaN
  | other, none => .error (.notANumber directive other.kind)

/-- A whole number in its place, with at least as many digits as the precision says. -/
def layOutWhole (manner : Manner) (base : Nat) (mark : List Char) (capital : Bool)
    (number : Int) : List Char :=
  let digits := Nat.toDigits base number.natAbs
  let padded := List.replicate (manner.precision.getD 0 - digits.length) '0' ++ digits
  let body := if capital then padded.map Char.toUpper else padded
  layOut manner true (if manner.alternate then mark else [])
    ((if number < 0 then ['-'] else []) ++ body)

/-- The decimal number that a value is. -/
def realOf (value : Value) : Except Fault Binary64 :=
  match value, wholeOf? value with
  | _, some number =>
    let nearest := Binary64.ofQuotient number 1
    if nearest.isInfinite then .error .tooLargeForFloat else .ok nearest
  | .float number, none => .ok number
  | other, none => .error (.notReal other.kind)

/-- A decimal in its place. -/
def layOutReal (manner : Manner) (form : Binary64.PlaceForm) (capital : Bool) (number : Binary64) :
    List Char :=
  let text := number.textWithPlaces literalWords form (manner.precision.getD 6) manner.alternate
  layOut manner true [] (if capital then text.map Char.toUpper else text)

/-- The code point of the character, or of the half of one, that a value is. -/
def pointOf (value : Value) : Except Fault Nat :=
  match value, wholeOf? value with
  | .text characters, _ =>
    match characters.toList with
    | [c] => .ok c.toNat
    | _ => .error .notACharacter
  | _, some number =>
    if number < 0 || 0x10FFFF < number then .error .noSuchCharacter else .ok number.toNat
  | _, none => .error .notACharacter

/-- A code point in its place, which is found with a letter. -/
def layOutPoint (manner : Manner) (point : Nat) : List Nat :=
  (layOut manner false [] ['c']).map fun c => if c = 'c' then point else c.toNat

/-- A value as a directive asks for it, by its code points; `index` is where the directive ends. -/
def write (manner : Manner) (directive : Char) (index : Nat) (value : Value) :
    Except Fault (List Nat) :=
  let inPlace (text : List Char) : List Nat := text.map Char.toNat
  let whole (base : Nat) (mark : List Char) : Except Fault (List Nat) :=
    match wholeOf? value with
    | some number => .ok (inPlace (layOutWhole manner base mark (directive = 'X') number))
    | none => .error (.notWhole directive value.kind)
  let real (form : Binary64.PlaceForm) : Except Fault (List Nat) :=
    (realOf value).map fun number =>
      inPlace (layOutReal manner form ("EFG".toList.contains directive) number)
  match directive with
  | 's' => .ok (inPlace (layOutText manner value.shown))
  | 'r' => .ok (inPlace (layOutText manner value.literal))
  | 'a' => .ok (inPlace (layOutText manner (asciiLiteral value.literal)))
  | 'd' | 'i' | 'u' =>
    (wholePart directive value).map fun number => inPlace (layOutWhole manner 10 [] false number)
  | 'o' => whole 8 ['0', 'o']
  | 'x' => whole 16 ['0', 'x']
  | 'X' => whole 16 ['0', 'X']
  | 'f' | 'F' => real .fixed
  | 'e' | 'E' => real .scientific
  | 'g' | 'G' => real .significant
  | 'c' => (pointOf value).map (layOutPoint manner)
  | _ => .error (.unsupported directive index)

/-- What the directive at the front of a list becomes, given the length of the template; then the value that
is not used up, and what follows. -/
def fillDirective (source : Value) (length : Nat) (unused : Option Value)
    (characters : List Char) : Except Fault (List Nat × Option Value × List Char) := do
  let keyed ← readKey source unused characters
  let (manner, afterFlags) := readFlags keyed.manner keyed.rest
  let wide ← readWidth { keyed with manner, rest := afterFlags }
  let exact ← readPrecision wide
  match skipLength exact.rest with
  | [] => throw .unfinished
  | directive :: rest =>
    let (value, taken) ← takeValue { exact with rest }
    let written ← write taken.manner directive (length - rest.length - 1) value
    return (written, taken.unused, rest)

/-- Fills a template from a place on. Every directive takes a character, so the length is fuel enough. -/
def fillFrom (source : Value) (length : Nat) : (fuel : Nat) → Option Value → List Char →
    Except Fault (List Nat)
  | _, unused, [] => if takesKeys source || unused.isNone then .ok [] else .error .unusedValue
  | 0, _, _ => .error .unfinished
  | fuel + 1, unused, '%' :: '%' :: rest => do
    return '%'.toNat :: (← fillFrom source length fuel unused rest)
  | fuel + 1, unused, '%' :: rest => do
    let (written, left, after) ← fillDirective source length unused rest
    return written ++ (← fillFrom source length fuel left after)
  | fuel + 1, unused, c :: rest => do
    return c.toNat :: (← fillFrom source length fuel unused rest)

/-- The code points of a template that is given a value. -/
def fill (template : String) (value : Value) : Except Fault (List Nat) :=
  fillFrom value template.length (template.length + 1) (some value) template.toList

end Switchboard.Template
