import Switchboard.Value.Key

/-!
# The order of a set

The members of a set of numbers are listed by their seats. There are more seats than members, and a power of
two of them. A number takes the seat that its residue names, or one of the nine after it; when none of these is
free it goes on from another, which follows from the residue and from the one before.

A member that is no number has no residue. A set with such a member keeps the order in which it was written.
-/

namespace Switchboard

namespace Seating

/-- The prime by which numbers leave their residues. -/
def residuePrime : Nat := Nat.pow 2 61 - 1

/-- The residue of a number, as a word. Half of one is a power of two there, so a fraction has a residue as
well. A negative number has the negative of the residue of its size, but minus one is treated as minus two. -/
def residue? : Identity → Option UInt64
  | .number numerator denominator =>
    let size := numerator.natAbs * Nat.pow 2 (60 * denominator.log2 % 61) % residuePrime
    some (if 0 ≤ numerator then size.toUInt64 else 0 - (if size = 1 then 2 else size).toUInt64)
  | .infinity negative => some (if negative then 0 - 314159 else 314159)
  | _ => none

/-- How many seats there are for members: eight for up to four, and else the least power of two above twice
their number. -/
def seatCount (members : Nat) : Nat :=
  if members ≤ 4 then 8 else Nat.pow 2 (members.log2 + 2)

/-- The seats that are tried together, from a seat on. A seat close to the end is tried alone. -/
def near (count seat : Nat) : List Nat :=
  if seat + 9 < count then (List.range 10).map (seat + ·) else [seat]

/-- The first free seat that is met from a seat on, `left` being what is left of the residue. Once nothing is
left of it every seat is come by in turn. -/
def freeSeat? (seats : Array (Option Scalar)) : (fuel : Nat) → (left : UInt64) → (seat : Nat) →
    Option Nat
  | 0, _, _ => none
  | fuel + 1, left, seat =>
    match (near seats.size seat).find? fun place => (seats.getD place none).isNone with
    | some place => some place
    | none =>
      let left := left >>> 5
      freeSeat? seats fuel left ((seat * 5 + 1 + left.toNat) % seats.size)

/-- Seats a member with a residue. -/
def seat (seats : Array (Option Scalar)) (member : Scalar × UInt64) : Array (Option Scalar) :=
  let (content, residue) := member
  match freeSeat? seats (seats.size + 13) residue (residue.toNat % seats.size) with
  | some place => seats.set! place (some content)
  | none => seats

end Seating

/-- The members of a set in the order in which they are listed. -/
def Scalar.seated (members : List Scalar) : List Scalar :=
  let residues := members.filterMap fun member =>
    (Seating.residue? member.identity).map fun residue => (member, residue)
  if residues.length < members.length then members
  else
    let empty := Array.replicate (Seating.seatCount members.length) none
    (residues.foldl Seating.seat empty).toList.filterMap id

end Switchboard
