import Switchboard.Number.Shortest

/-!
# Decimals with a given number of places

A number is written with as many digits after its point as are asked for, at its full size or with an
exponent, or with as many significant digits as are asked for in whichever of the two ways is shorter. The
last digit is rounded, a half going to the even neighbour.
-/

namespace Switchboard.Binary64

/-- A number of the size of a whole number divided by ten as many times as there are places. The point is left
out where no digit follows it, unless it is kept. -/
def withPlaces (places number : Nat) (keepsPoint : Bool) : List Char :=
  let digits := Nat.toDigits 10 number
  let padded := List.replicate (places + 1 - digits.length) '0' ++ digits
  let whole := padded.take (padded.length - places)
  let fraction := padded.drop (padded.length - places)
  whole ++ (if fraction.isEmpty && !keepsPoint then [] else '.' :: fraction)

/-- A quotient with a number of places. -/
def fixedPlaces (numerator denominator places : Nat) (keepsPoint : Bool) : List Char :=
  withPlaces places (roundHalfEven (numerator * Nat.pow 10 places) denominator) keepsPoint

/-- The significant digits of a quotient, one more than `places`, and the exponent of the leading one. -/
def significant (numerator denominator places : Nat) : Nat × Int :=
  if numerator = 0 then (0, 0)
  else
    let leading := leadingExponent numerator denominator
    let shift : Int := places - leading
    let digits :=
      if 0 ≤ shift then roundHalfEven (numerator * Nat.pow 10 shift.toNat) denominator
      else roundHalfEven numerator (denominator * Nat.pow 10 (-shift).toNat)
    if digits = Nat.pow 10 (places + 1) then (Nat.pow 10 places, leading + 1) else (digits, leading)

/-- A quotient with a number of places and an exponent. -/
def scientificPlaces (numerator denominator places : Nat) (keepsPoint : Bool) : List Char :=
  let (digits, leading) := significant numerator denominator places
  withPlaces places digits keepsPoint ++ 'e' :: exponentText leading

/-- A decimal without the zeros at its end, and without a point at its end. -/
def withoutFinalZeros (decimal : List Char) : List Char :=
  if decimal.contains '.' then
    let back := decimal.reverse.dropWhile (· = '0')
    (if back.head? = some '.' then back.tail else back).reverse
  else decimal

/-- A quotient with a number of significant digits, at its full size if the exponent of the leading digit is
not below minus four and below that number. Zeros at the end are left out unless the point is kept. -/
def significantPlaces (numerator denominator count : Nat) (keepsPoint : Bool) : List Char :=
  let places := count - 1
  let (digits, leading) := significant numerator denominator places
  let settle (decimal : List Char) : List Char :=
    if keepsPoint then decimal else withoutFinalZeros decimal
  if positionalFrom ≤ leading && leading < count then
    settle (fixedPlaces numerator denominator (places - leading).toNat keepsPoint)
  else settle (withPlaces places digits keepsPoint) ++ 'e' :: exponentText leading

/-- How places are counted. -/
inductive PlaceForm where
  | fixed | scientific | significant
deriving DecidableEq, Repr

/-- A number with a given number of places; what has no decimal is shown by its words. -/
def textWithPlaces (words : Words) (form : PlaceForm) (places : Nat) (keepsPoint : Bool)
    (x : Binary64) : List Char :=
  match x.isNotANumber, x.fraction? with
  | false, some (signed, denominator) =>
    let sign := if x.isNegative then ['-'] else []
    let size := signed.natAbs
    if x.isInfinite then sign ++ words.infinity.toList
    else
      sign ++
        match form with
        | .fixed => fixedPlaces size denominator places keepsPoint
        | .scientific => scientificPlaces size denominator places keepsPoint
        | .significant => significantPlaces size denominator (max places 1) keepsPoint
  | _, _ => words.notANumber.toList

end Switchboard.Binary64
