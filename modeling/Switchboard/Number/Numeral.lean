import Switchboard.Number.Binary64
import Switchboard.Text.BlankDigit
import Switchboard.Text.Quoted

/-!
# Numbers in text

A number may stand between blanks, may carry a sign, may be written with the decimal digits of any script,
and may have single underscores between its digits. Whole numbers are read exactly but refused above a
length; numbers with a fraction or an exponent are rounded, and infinities and the number that is none have
their names.
-/

namespace Switchboard.Numeral

/-- Why a text is not read as a whole number. -/
inductive Fault where
  | malformed (base : Nat) (text : String)
  | tooLong (digits : Nat)
  /-- The text would hold a number with too many digits, and is not made. -/
  | unwritten
deriving DecidableEq, Repr

/-- Whole numbers with more digits than this are neither read nor written, unless another limit is set. -/
def digitLimit : Nat := 4300

/-- The first characters of a text. -/
def clipped (count : Nat) (text : String) : String :=
  String.ofList (text.toList.take count)

/-- What is said of a text, given as its literal, that is no whole number. -/
def malformedNote (base : Nat) (literal : String) : String :=
  s!"invalid literal for int() with base {base}: " ++ clipped 200 literal

/-- What is said when a number with more digits than a limit would have to be written. -/
def unwrittenNote (limit : Nat) : String :=
  s!"Exceeds the limit ({limit} digits) for integer string conversion; " ++
    "use sys.set_int_max_str_digits() to increase the limit"

/-- What is said of a text that is no whole number. -/
def Fault.message : Fault → String
  | .malformed base text => malformedNote base (Text.quoted text)
  | .tooLong digits =>
    s!"Exceeds the limit ({digitLimit} digits) for integer string conversion: " ++
      s!"value has {digits} digits; use sys.set_int_max_str_digits() to increase the limit"
  | .unwritten => unwrittenNote digitLimit

/-- Whether a character is a digit from 0 to 9. -/
def isPlainDigit (c : Char) : Bool := '0' ≤ c && c ≤ '9'

/-- The blanks that may surround a number: the space and the five line and page controls. -/
def isPlainBlank (c : Char) : Bool := c = ' ' || (0x09 ≤ c.toNat && c.toNat ≤ 0x0D)

/-- One character of a number in plain form: digits of any script become plain digits, blanks outside the
plain range become spaces, and other characters outside it become a mark that no number holds. -/
def plainChar (c : Char) : Char :=
  if c.toNat < 127 then c
  else if Text.isBlank c then ' '
  else match Text.decimalValue? c with
    | some value => Char.ofNat ('0'.toNat + value)
    | none => '?'

/-- The text of a number in plain form, without the blanks around it. -/
def plain (text : String) : List Char :=
  (((text.toList.map plainChar).dropWhile isPlainBlank).reverse.dropWhile isPlainBlank).reverse

/-- Splits off a sign; true is the minus sign. -/
def splitSign : List Char → Bool × List Char
  | '-' :: rest => (true, rest)
  | '+' :: rest => (false, rest)
  | rest => (false, rest)

/-- The characters without the underscores between two digits; none when an underscore stands elsewhere.
`previous` is the character before. -/
def ungroup? (previous : Char) : List Char → Option (List Char)
  | [] => if previous = '_' then none else some []
  | c :: rest =>
    if c = '_' then
      if isPlainDigit previous then ungroup? c rest else none
    else if previous = '_' && !isPlainDigit c then none
    else (ungroup? c rest).map (c :: ·)

/-- The value of a string of digits in a base up to sixteen. -/
def valueOf (base : Nat) (digits : List Char) : Nat :=
  digits.foldl (fun total c =>
    total * base +
      (if isPlainDigit c then c.toNat - '0'.toNat
        else if 'a' ≤ c && c ≤ 'f' then c.toNat - 'a'.toNat + 10
        else c.toNat - 'A'.toNat + 10)) 0

/-- The number that decimal digits write, unless there are too many of them. -/
def readDigits (negative : Bool) (digits : List Char) : Except Fault Int :=
  if digitLimit < digits.length then .error (.tooLong digits.length)
  else
    let value : Int := valueOf 10 digits
    .ok (if negative then -value else value)

/-- Reads a whole number. -/
def readInt (text : String) : Except Fault Int :=
  let (negative, body) := splitSign (plain text)
  let inNumber (c : Char) : Bool := isPlainDigit c || c = '_'
  match ungroup? ' ' (body.takeWhile inNumber) with
  | none => .error (.malformed 10 text)
  | some digits => do
    let number ← readDigits negative digits
    if digits.isEmpty || !(body.dropWhile inNumber).isEmpty then .error (.malformed 10 text)
    else return number

/-- The digits of a number behind the mark of a base: a zero and a letter in either case. -/
def afterBaseMark (letter : Char) : List Char → List Char
  | '0' :: mark :: rest =>
    if mark = letter || mark.toLower = letter then rest else '0' :: mark :: rest
  | digits => digits

/-- Reads a whole number of any length without underscores in a base, whose mark may precede it. -/
def readBased? (base : Nat) (letter : Char) (text : String) : Option Int :=
  let (negative, body) := splitSign (plain text)
  let digits := afterBaseMark letter body
  if digits.isEmpty || !digits.all fun c => (Text.hexadecimalValue? c).any (· < base) then none
  else
    let value : Int := valueOf base digits
    some (if negative then -value else value)

/-- The mantissa of a decimal: its digits, how many of them follow the point, and what comes after. None
without any digit. -/
def splitMantissa (characters : List Char) : Option (List Char × Nat × List Char) :=
  let whole := characters.takeWhile isPlainDigit
  let rest := characters.dropWhile isPlainDigit
  let (fraction, after) :=
    match rest with
    | '.' :: tail => (tail.takeWhile isPlainDigit, tail.dropWhile isPlainDigit)
    | _ => ([], rest)
  if whole.isEmpty && fraction.isEmpty then none
  else some (whole ++ fraction, fraction.length, after)

/-- The exponent at the end of a decimal: nothing, or a mark, an optional sign and digits. -/
def readExponent? : List Char → Option Int
  | [] => some 0
  | c :: rest =>
    if c = 'e' || c = 'E' then
      let (negative, digits) := splitSign rest
      if digits.isEmpty || !digits.all isPlainDigit then none
      else
        let value : Int := valueOf 10 digits
        some (if negative then -value else value)
    else none

/-- Reads an unsigned decimal in plain form. -/
def readDecimal? (negative : Bool) (characters : List Char) : Option Binary64 := do
  let (digits, places, rest) ← splitMantissa characters
  let exponent ← readExponent? rest
  return Binary64.ofDecimal negative (valueOf 10 digits) (exponent - places)

/-- The small form of a plain capital letter. -/
def plainSmall (c : Char) : Char :=
  if 'A' ≤ c && c ≤ 'Z' then Char.ofNat (c.toNat + 32) else c

/-- Reads a number that may have a fraction or an exponent, or be named. -/
def readFloat? (text : String) : Option Binary64 := do
  let (negative, body) := splitSign (← ungroup? ' ' (plain text))
  let name := String.ofList (body.map plainSmall)
  if name = "inf" || name = "infinity" then return Binary64.infinity negative
  else if name = "nan" then return Binary64.notANumber
  else readDecimal? negative body

end Switchboard.Numeral
