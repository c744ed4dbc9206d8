import Switchboard.Entries
import Switchboard.Value

/-!
# Scalars as keys

Two scalars are one key when they have one identity. Numbers of equal size are one key whatever their type,
truth values counting as zero and one; a number that is none is one key only with itself. Times are one key
when they are the same instant, or the same on clocks that do not tell how far they are ahead.
-/

namespace Switchboard

/-- What makes a scalar the key that it is. -/
inductive Identity where
  | null
  | number (numerator : Int) (denominator : Nat)
  | infinity (negative : Bool)
  | notANumber (mark : Mark)
  | text (characters : String)
  | halved (points : List Nat)
  | octets (content : List UInt8)
  | date (day : Date)
  | instant (microseconds : Int)
  | clock (microseconds : Int)
deriving DecidableEq, Repr

/-- A fraction in lowest terms. -/
def Identity.ofFraction (numerator : Int) (denominator : Nat) : Identity :=
  let common := Nat.gcd numerator.natAbs denominator
  .number (numerator.tdiv common) (denominator / common)

namespace Scalar

/-- The identity of a scalar. -/
def identity : Scalar → Identity
  | .null => .null
  | .bool answer => .number (if answer then 1 else 0) 1
  | .int number => .number number 1
  | .float number =>
    if number.isInfinite then .infinity number.isNegative
    else
      match number.fraction? with
      | some (numerator, denominator) => .ofFraction numerator denominator
      | none => .notANumber number.mark
  | .text characters => .text characters
  | .halved points => .halved points
  | .octets content => .octets content
  | .date day => .date day
  | .moment time =>
    if time.offset.isSome then .instant time.microseconds else .clock time.microseconds

/-- Keys are the same where their identities are. -/
instance : BEq Scalar := ⟨fun left right => left.identity == right.identity⟩

/-- To be the same key is an equivalence. -/
instance : EquivBEq Scalar where
  rfl := by simp [BEq.beq]
  symm same := by
    simp only [BEq.beq, decide_eq_true_eq] at same ⊢
    exact same.symm
  trans first second := by
    simp only [BEq.beq, decide_eq_true_eq] at first second ⊢
    exact first.trans second

/-- The number that a scalar is, as a fraction; truth values are zero and one. -/
def fraction? : Scalar → Option (Int × Nat)
  | .bool answer => some (if answer then 1 else 0, 1)
  | .int number => some (number, 1)
  | .float number => number.fraction?
  | _ => none

/-- The code points of a text. -/
def points? : Scalar → Option (List Nat)
  | .text characters => some (Text.points characters)
  | .halved points => some points
  | _ => none

/-- Texts are ordered by code points, numbers by size, days and times by the calendar, octets one by one. A
number that is none is in front of no other and behind none. -/
def precedes : Scalar → Scalar → Bool
  | .text left, .text right => left < right
  | .octets left, .octets right => left < right
  | .date left, .date right => left.ordinal < right.ordinal
  | .moment left, .moment right => left.microseconds < right.microseconds
  | left, right =>
    match left.fraction?, right.fraction?, left.points?, right.points? with
    | some (a, b), some (c, d), _, _ => a * d < c * b
    | _, _, some front, some back => front < back
    | _, _, _, _ => false

/-- Whether a scalar is a number or a truth value. -/
def isNumber (content : Scalar) : Bool :=
  content.kind = .bool || content.kind = .int || content.kind = .float

/-- Whether two scalars can be held against each other. -/
def areOrdered : Scalar → Scalar → Bool
  | .moment left, .moment right => left.offset.isSome = right.offset.isSome
  | left, right => (left.isNumber && right.isNumber) || left.kind = right.kind && left.kind ≠ .null

/-- Whether a scalar comes before another one, if the two can be held against each other. -/
def comesBefore (left right : Scalar) : Except Misuse Bool :=
  if left.areOrdered right then .ok (left.precedes right) else .error (.unordered left.kind right.kind)

end Scalar

/-- A value as a key. -/
def Value.asKey : Value → Except Misuse Scalar
  | .scalar key => .ok key
  | other => .error (.notAKey other.kind)

end Switchboard
