import Switchboard.Number.Binary64

/-!
# The shortest decimal of a number

A finite number is written with the fewest significant digits that read back as the same number. Of two
decimals of that length the nearer is taken, and of two equally near the one with the even last digit.
-/

namespace Switchboard.Binary64

/-- A decimal `digits · 10 ^ exponent`. -/
structure Decimal where
  digits : Nat
  exponent : Int
deriving DecidableEq, Repr

/-- The decimal exponent of the leading digit of a positive quotient that is not below `10 ^ -400`. -/
def leadingExponent (numerator denominator : Nat) : Int :=
  ((Nat.toDigits 10 (numerator * Nat.pow 10 400 / denominator)).length : Int) - 401

/-- The best decimal with a given exponent for the number of the given magnitude, if one of the two
neighbours on that decimal grid reads back as it. -/
def decimalAt? (magnitude : Nat) (exponent : Int) : Option Decimal :=
  let (top, bottom) := quotient magnitude
  let numerator := if 0 ≤ exponent then top else top * Nat.pow 10 (-exponent).toNat
  let denominator := if 0 ≤ exponent then bottom * Nat.pow 10 exponent.toNat else bottom
  let below := numerator / denominator
  let readsBack (digits : Nat) : Bool := (ofDecimal false digits exponent).magnitude = magnitude
  let nearest := roundHalfEven numerator denominator
  let other := if nearest = below then below + 1 else below
  if readsBack nearest then some ⟨nearest, exponent⟩
  else if readsBack other then some ⟨other, exponent⟩
  else none

/-- The first decimal found among those with `count`, `count + 1`, … significant digits. -/
def shortestFrom (magnitude : Nat) (leading : Int) : (tries count : Nat) → Decimal
  | 0, _ => ⟨0, 0⟩
  | tries + 1, count =>
    match decimalAt? magnitude (leading - count + 1) with
    | some decimal => decimal
    | none => shortestFrom magnitude leading tries (count + 1)

/-- The shortest decimal of a positive finite number; seventeen digits always read back. -/
def shortest (magnitude : Nat) : Decimal :=
  let (numerator, denominator) := quotient magnitude
  shortestFrom magnitude (leadingExponent numerator denominator) 17 1

/-- Digits without the zeros at their end, and how many were left out. -/
def withoutTrailingZeros (digits : List Char) : List Char × Nat :=
  let zeros := (digits.reverse.takeWhile (· = '0')).length
  (digits.take (digits.length - zeros), zeros)

/-- Exponents of the leading digit from here on are written with an exponent mark. -/
def scientificFrom : Int := 16

/-- The least exponent of the leading digit that is still written positionally. -/
def positionalFrom : Int := -4

/-- Significant digits with a point after the first, unless it is the only one. -/
def withPoint : List Char → List Char
  | [] => []
  | [digit] => [digit]
  | digit :: rest => digit :: '.' :: rest

/-- An exponent with its sign and at least two digits. -/
def exponentText (exponent : Int) : List Char :=
  let digits := Nat.toDigits 10 exponent.natAbs
  let padded := if digits.length < 2 then '0' :: digits else digits
  (if exponent < 0 then '-' else '+') :: padded

/-- Significant digits at the exponent of the leading one. Positional notation always has a point with a
digit on either side; exponent notation has none when there is one digit only. -/
def layOut (digits : List Char) (leading : Int) : List Char :=
  if scientificFrom ≤ leading || leading < positionalFrom then
    withPoint digits ++ 'e' :: exponentText leading
  else if leading < 0 then
    '0' :: '.' :: List.replicate ((-leading).toNat - 1) '0' ++ digits
  else
    let whole := leading.toNat + 1
    let padded := digits ++ List.replicate (whole - digits.length) '0'
    let fraction := padded.drop whole
    padded.take whole ++ '.' :: (if fraction.isEmpty then ['0'] else fraction)

/-- The words for the numbers that have no decimal. -/
structure Words where
  infinity : String
  notANumber : String

/-- The text of a number, given the words for what has no decimal. -/
def text (words : Words) (x : Binary64) : String :=
  if x.isNotANumber then words.notANumber
  else
    let sign := if x.isNegative then "-" else ""
    if x.isInfinite then sign ++ words.infinity
    else if x.isZero then sign ++ "0.0"
    else
      let decimal := shortest x.magnitude
      let (digits, zeros) := withoutTrailingZeros (Nat.toDigits 10 decimal.digits)
      sign ++ String.ofList (layOut digits (decimal.exponent + zeros + digits.length - 1))

end Switchboard.Binary64
