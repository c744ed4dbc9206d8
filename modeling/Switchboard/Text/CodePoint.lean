/-!
# Code points

A character beyond the first 65536 code points is written in units of 16 bits as a pair, whose halves have
code points of their own that no character has. Where a text may hold halves that stand apart it is kept as
its code points; where it is shown, the two halves of a pair in a row are one character. In escapes a code
point is written in hexadecimal.
-/

namespace Switchboard

/-- The number of a character, or of a half of a pair. -/
abbrev CodePoint := Fin 0x110000

/-- The code point of a character. -/
def CodePoint.ofChar (c : Char) : CodePoint :=
  ⟨c.toNat, by
    have valid : c.toNat < 0xD800 ∨ 0xDFFF < c.toNat ∧ c.toNat < 0x110000 := c.valid
    omega⟩

/-- A text that may hold halves of pairs. -/
abbrev CodePoints := List CodePoint

/-- The code points of the characters of a text. -/
def CodePoints.ofText (text : String) : CodePoints := text.toList.map CodePoint.ofChar

/-- A text is read as its code points. -/
instance : Coe String CodePoints := ⟨CodePoints.ofText⟩

namespace Text

/-- The lower-case hexadecimal digits of a number, padded with zeros to a width. -/
def hexadecimal (width number : Nat) : List Char :=
  let digits := Nat.toDigits 16 number
  List.replicate (width - digits.length) '0' ++ digits

/-- The value of a hexadecimal digit of either case. -/
def hexadecimalValue? (c : Char) : Option Nat :=
  if '0' ≤ c && c ≤ '9' then some (c.toNat - '0'.toNat)
  else if 'a' ≤ c && c ≤ 'f' then some (c.toNat - 'a'.toNat + 10)
  else if 'A' ≤ c && c ≤ 'F' then some (c.toNat - 'A'.toNat + 10)
  else none

/-- The number written by exactly `count` digits at the front of a list, and what follows them. -/
def readHexadecimal? : (count total : Nat) → List Char → Option (Nat × List Char)
  | 0, total, rest => some (total, rest)
  | count + 1, total, c :: rest =>
    match hexadecimalValue? c with
    | some value => readHexadecimal? count (total * 16 + value) rest
    | none => none
  | _ + 1, _, [] => none

/-- The code points of a text. -/
def points (text : String) : List Nat := text.toList.map Char.toNat

/-- Whether a code point is that of a half of a pair. -/
def isHalf (point : Nat) : Bool := 0xD800 ≤ point && point ≤ 0xDFFF

/-- No character is a half of a pair. -/
theorem isHalf_toNat (c : Char) : isHalf c.toNat = false := by
  have valid : c.toNat < 0xD800 ∨ 0xDFFF < c.toNat ∧ c.toNat < 0x110000 := c.valid
  simp only [isHalf, Bool.and_eq_false_iff, decide_eq_false_iff_not]
  omega

/-- The character that two halves of a pair stand for. -/
def pairedChar? (high low : Nat) : Option Char :=
  if 0xD800 ≤ high && high ≤ 0xDBFF && 0xDC00 ≤ low && low ≤ 0xDFFF then
    some (Char.ofNat (0x10000 + (high - 0xD800) * 0x400 + (low - 0xDC00)))
  else none

/-- The character with a code point; a half has none and is replaced. -/
def charAt (point : Nat) : Char :=
  if isHalf point then Char.ofNat 0xFFFD else Char.ofNat point

/-- The text of code points, each for itself. -/
def ofPoints (points : List Nat) : String := String.ofList (points.map charAt)

/-- The characters of code points in which the halves of pairs are joined. -/
def joinedChars : List Nat → List Char
  | [] => []
  | [point] => [charAt point]
  | high :: low :: rest =>
    match pairedChar? high low with
    | some c => c :: joinedChars rest
    | none => charAt high :: joinedChars (low :: rest)

/-- The text of code points, the two halves of a pair in a row being one character. -/
def joined (points : List Nat) : String := String.ofList (joinedChars points)

/-- Puts code points back in the places of the characters that stood for them. -/
def restored : List Nat → List Char → List Nat
  | [], characters => characters.map Char.toNat
  | _, [] => []
  | point :: rest, c :: characters =>
    if c = charAt 0xD800 then point :: restored rest characters
    else c.toNat :: restored (point :: rest) characters

/-- Changes the characters of a text, and leaves its halves. -/
def mapPoints (change : String → String) (points : List Nat) : List Nat :=
  let replaced := points.filter fun point => charAt point = charAt 0xD800
  restored replaced (change (ofPoints points)).toList

end Text

end Switchboard
