import Switchboard.Text.Case
import Switchboard.Yaml.Form

/-!
# Scalars by their tags

What a text means once its tag is known. A text that does not have the form of its tag may still mean
something: a number is read from whatever is left of the text without underscores.
-/

namespace Switchboard.Yaml

/-- The words for truth values, in small letters. -/
def truthWords : List (String × Bool) :=
  [ ("yes", true), ("no", false), ("true", true), ("false", false), ("on", true), ("off", false) ]

/-- Reads a truth value in any letter case. -/
def readTruth (points : List Nat) : Except ScalarFault Bool :=
  let small := Text.mapPoints Text.lower points
  match (truthWords.find? fun entry => Text.points entry.1 = small).map (·.2) with
  | some answer => .ok answer
  | none => .error (.word small)

/-- The code point of a character. -/
abbrev pointOf (c : Char) : Nat := c.toNat

/-- A number without its underscores, split into its sign and the rest; true is the minus sign. There is
something in front of the rest. -/
def splitNumber (points : List Nat) : Except ScalarFault (Bool × List Nat) :=
  match points.filter (· ≠ pointOf '_') with
  | [] => .error .noDigits
  | first :: rest =>
    if first = pointOf '-' then .ok (true, rest)
    else if first = pointOf '+' then .ok (false, rest)
    else .ok (false, first :: rest)

/-- Reads digits in base two, eight or sixteen. -/
def readBased (base : Nat) (letter : Char) (points : List Nat) : Except ScalarFault Int :=
  match Numeral.readBased? base letter (Text.ofPoints points) with
  | some number => .ok number
  | none => .error (.notWhole base points)

/-- Reads a decimal whole number. -/
def readDecimal (points : List Nat) : Except ScalarFault Int :=
  match Numeral.readInt (Text.ofPoints points) with
  | .ok number => .ok number
  | .error (.malformed base _) => .error (.notWhole base points)
  | .error fault => .error (.number fault)

/-- The parts of a number between colons. -/
def sixtieths (points : List Nat) : List (List Nat) := Text.pieces (pointOf ':') points

/-- Reads a whole number without its sign. -/
def readUnsigned (points : List Nat) : Except ScalarFault Int :=
  if points = [pointOf '0'] then .ok 0
  else
    match points with
    | [] => .error .noDigits
    | first :: rest =>
      if first = pointOf '0' then
        if rest.head? = some (pointOf 'b') then readBased 2 'b' rest.tail
        else if rest.head? = some (pointOf 'x') then readBased 16 'x' rest.tail
        else readBased 8 'o' points
      else if points.contains (pointOf ':') then do
        let parts ← (sixtieths points).mapM readDecimal
        return parts.foldl (fun total part => total * 60 + part) 0
      else readDecimal points

/-- Reads a whole number in any base, or in parts of sixty. -/
def readWhole (points : List Nat) : Except ScalarFault Int := do
  let (negative, rest) ← splitNumber points
  let number ← readUnsigned rest
  return if negative then -number else number

/-- Reads a number that may have a fraction or an exponent, or be named. -/
def readDecimalReal (points : List Nat) : Except ScalarFault Binary64 :=
  match Numeral.readFloat? (Text.ofPoints points) with
  | some number => .ok number
  | none => .error (.notReal points)

/-- The sum of parts of sixty, the last one first: each part is multiplied by its weight and added, and both
are rounded. -/
def sumSixtieths : (weight : Nat) → (total : Binary64) → List Binary64 →
    Except ScalarFault Binary64
  | _, total, [] => .ok total
  | weight, total, part :: rest =>
    let nearest := Binary64.ofQuotient weight 1
    if nearest.isInfinite then .error .tooManyParts
    else sumSixtieths (weight * 60) (total.add (part.multiply nearest)) rest

/-- Reads a number in small letters without its sign. -/
def readUnsignedReal (points : List Nat) : Except ScalarFault Binary64 :=
  if points = Text.points ".inf" then .ok (.infinity false)
  else if points = Text.points ".nan" then .ok .notANumber
  else if points.contains (pointOf ':') then do
    let parts ← (sixtieths points).mapM readDecimalReal
    sumSixtieths 1 (.ofQuotient 0 1) parts.reverse
  else readDecimalReal points

/-- A number that is none, as it comes into being anew. -/
def freshNotANumber : Binary64 := .notANumberMarked (.read 0 0 0)

/-- Reads a number of any form. The one that is none and has a word is always the same. -/
def readReal (points : List Nat) : Except ScalarFault Binary64 := do
  let (negative, rest) ← splitNumber (Text.mapPoints Text.lower points)
  let number ← readUnsignedReal rest
  if number.isNotANumber then
    return if rest = Text.points ".nan" then number else freshNotANumber
  return if negative then number.negate else number

/-- Reads a day or a time. -/
def readTime (points : List Nat) : Except ScalarFault Scalar :=
  match readTimestamp? false (withoutLastFeed (points.map Text.charAt)) with
  | some (.ok found) => .ok found
  | some (.error fault) => .error (.calendar fault)
  | none => .error (.misuse (.lacksOperation .null "groupdict"))

/-- Reads octets, which only plain characters write. -/
def readOctets (points : List Nat) : Except Fault Scalar :=
  if points.all (· < 128) then
    match Text.readOctets? (points.map Char.ofNat) with
    | some octets => .ok (.octets octets)
    | none => .error .malformed
  else .error .malformed

/-- The scalar that a text of a tag means. A tag of collections has none, nor has a tag of keys. -/
def Tag.read (tag : Tag) (points : List Nat) : Except Fault Scalar :=
  match tag with
  | .null => .ok .null
  | .text => .ok (.ofPoints points)
  | .bool => ((readTruth points).map .bool).mapError .scalar
  | .int => ((readWhole points).map .int).mapError .scalar
  | .float => ((readReal points).map .float).mapError .scalar
  | .timestamp => (readTime points).mapError .scalar
  | .octets => readOctets points
  | .sequence | .mapping | .set | .pairs | .merge | .standIn | .other => .error .malformed

end Switchboard.Yaml
