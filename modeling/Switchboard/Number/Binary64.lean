/-!
# Binary64 numbers

A floating-point number is kept as its 64 bits, so that the two zeros are told apart. A number that is none
may carry a mark beside them, by which those that came into being apart are told apart; its mark is never
shown. Reading a decimal rounds it to the nearest number, ties going to the even significand; too large a
decimal becomes an infinity and too small a one a zero of its sign. Sums and products are rounded in the same
way.
-/

namespace Switchboard

/-- When and where a number that is none came into being. -/
inductive Mark where
  /-- At no time: a word stands for it. -/
  | word
  /-- It came with the command of a moment. -/
  | given (moment : Nat)
  /-- It was read at a moment, by the number of its source and its number there. -/
  | read (moment source number : Nat)
deriving DecidableEq, Repr

/-- A number with a fraction, by its 64 bits. -/
structure Binary64 where
  bits : UInt64
  mark : Mark := .word
deriving DecidableEq, Repr

namespace Binary64

/-- The sign bit. -/
def signBit : Nat := Nat.pow 2 63

/-- The bits of the positive infinity; anything larger below the sign bit is not a number. -/
def infinityBits : Nat := 0x7FF0000000000000

/-- The number with some bits. -/
def ofNatBits (bits : Nat) : Binary64 := { bits := UInt64.ofNat bits }

/-- The number that is none. -/
def notANumber : Binary64 := ofNatBits 0x7FF8000000000000

/-- The number that is none, with a mark. -/
def notANumberMarked (mark : Mark) : Binary64 := { notANumber with mark }

/-- The infinite number of either sign. -/
def infinity (negative : Bool) : Binary64 :=
  ofNatBits (infinityBits + if negative then signBit else 0)

/-- The bits below the sign bit. -/
def magnitude (x : Binary64) : Nat := x.bits.toNat % signBit

/-- Whether the sign is negative, also of zero and of what is no number. -/
def isNegative (x : Binary64) : Bool := signBit ≤ x.bits.toNat

/-- Whether it is no number. -/
def isNotANumber (x : Binary64) : Bool := infinityBits < x.magnitude

/-- Whether it is infinite. -/
def isInfinite (x : Binary64) : Bool := x.magnitude = infinityBits

/-- Whether it is zero, of either sign. -/
def isZero (x : Binary64) : Bool := x.magnitude = 0

/-- Whether the number is zero or less; false of what is not a number. -/
def isNonPositive (x : Binary64) : Bool :=
  !x.isNotANumber && (x.isNegative || x.isZero)

/-- The exponent of the least significand bit when `numerator / denominator` is rounded to 53 bits. -/
def leastExponent (numerator denominator : Nat) : Int :=
  let guess : Int := (numerator.log2 : Int) - denominator.log2 - 52
  let tooLarge :=
    if 0 ≤ guess then numerator < denominator * Nat.pow 2 (guess.toNat + 52)
    else numerator * Nat.pow 2 (-guess).toNat < denominator * Nat.pow 2 52
  max (if tooLarge then guess - 1 else guess) (-1074)

/-- The quotient rounded to a whole number, a half going to the even neighbour. -/
def roundHalfEven (numerator denominator : Nat) : Nat :=
  let quotient := numerator / denominator
  let twice := 2 * (numerator % denominator)
  if twice < denominator then quotient
  else if denominator < twice then quotient + 1
  else quotient + quotient % 2

/-- The bits below the sign bit of the number nearest to `numerator / denominator`. -/
def nearestMagnitude (numerator denominator : Nat) : Nat :=
  if numerator = 0 then 0
  else
    let exponent := leastExponent numerator denominator
    let significand :=
      if 0 ≤ exponent then roundHalfEven numerator (denominator * Nat.pow 2 exponent.toNat)
      else roundHalfEven (numerator * Nat.pow 2 (-exponent).toNat) denominator
    min infinityBits ((exponent + 1074).toNat * Nat.pow 2 52 + significand)

/-- The number nearest to `± digits · 10 ^ exponent`. Exponents far out of range are answered without
computing the power. -/
def ofDecimal (negative : Bool) (digits : Nat) (exponent : Int) : Binary64 :=
  let size : Int := exponent + (Nat.toDigits 10 digits).length
  let magnitude :=
    if digits = 0 || size < -400 then 0
    else if 400 < size then infinityBits
    else if 0 ≤ exponent then nearestMagnitude (digits * Nat.pow 10 exponent.toNat) 1
    else nearestMagnitude digits (Nat.pow 10 (-exponent).toNat)
  ofNatBits (magnitude + if negative then signBit else 0)

/-- The positive number with the given bits below the sign bit as an exact quotient. -/
def quotient (magnitude : Nat) : Nat × Nat :=
  let biased := magnitude / Nat.pow 2 52
  let fraction := magnitude % Nat.pow 2 52
  let significand := if biased = 0 then fraction else fraction + Nat.pow 2 52
  let exponent := max biased 1
  if 1075 ≤ exponent then (significand * Nat.pow 2 (exponent - 1075), 1)
  else (significand, Nat.pow 2 (1075 - exponent))

/-- The number as an exact fraction. An infinity is a fraction beyond all others; what is not a number has
none. -/
def fraction? (x : Binary64) : Option (Int × Nat) :=
  if x.isNotANumber then none
  else
    let (numerator, denominator) :=
      if x.isInfinite then (Nat.pow 10 400, 1) else quotient x.magnitude
    some (if x.isNegative then -(numerator : Int) else numerator, denominator)

/-- The bits by which a number is shown: what is not a number is shown without its mark. -/
def shownBits (x : Binary64) : Nat :=
  if x.isNotANumber then notANumber.bits.toNat else x.bits.toNat

/-- The number nearest to a quotient. -/
def ofQuotient (numerator : Int) (denominator : Nat) : Binary64 :=
  ofNatBits (nearestMagnitude numerator.natAbs denominator + if numerator < 0 then signBit else 0)

/-- The number nearest to a sum. Infinities of opposite signs have none. -/
def add (x y : Binary64) : Binary64 :=
  if x.isInfinite && y.isInfinite && x.isNegative != y.isNegative then notANumber
  else match x.fraction?, y.fraction? with
  | some (a, b), some (c, d) => ofQuotient (a * d + c * b) (b * d)
  | _, _ => notANumber

/-- The number nearest to a product. -/
def multiply (x y : Binary64) : Binary64 :=
  match x.fraction?, y.fraction? with
  | some (a, b), some (c, d) => ofQuotient (a * c) (b * d)
  | _, _ => notANumber

/-- The number of the opposite sign. -/
def negate (x : Binary64) : Binary64 :=
  if x.isNotANumber then x
  else ofNatBits (if x.isNegative then x.magnitude else x.magnitude + signBit)

end Binary64

end Switchboard
