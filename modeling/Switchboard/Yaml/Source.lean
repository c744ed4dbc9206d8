import Switchboard.Text.Encoding
import Switchboard.Yaml.Character

/-!
# Texts that arrive in parts

A text arrives in parts of equal length, the first two of them at once, and each later one when all before it
was looked at. What is wrong with a part is found when it arrives. So a fault of what came before is found
first, and a fault of what stands in front of it in the same part is not.
-/

namespace Switchboard.Yaml

/-- A text as far as it has arrived. -/
structure Source where
  /-- What can be looked at. -/
  arrived : List Char
  /-- What is wrong with the part after it, if there is one. -/
  fault? : Option Fault

namespace Source

/-- The number of characters in a part of a text. -/
def partLength : Nat := 4096

/-- The number of bytes that are decoded together. -/
def blockLength : Nat := 8192

/-- How many characters arrive before the part that holds the character at an index. -/
def arrivedBefore (index : Nat) : Nat :=
  if index < 2 * partLength then 0 else index / partLength * partLength

/-- Characters of which the first one that may not stand in a text spoils its part. -/
def ofCharacters (characters : List Char) : Source :=
  if characters.all isAllowed then ⟨characters, none⟩
  else
    let good := (characters.takeWhile isAllowed).length
    ⟨characters.take (arrivedBefore good), some .malformed⟩

/-- The text of the blocks in front of the first one that does not decode. -/
def decodedBlocks (bytes : List UInt8) : List Char :=
  let counts := (List.range (bytes.length / blockLength + 1)).reverse
  ((counts.findSome? fun count => Text.decodeFront? (bytes.take (count * blockLength))).getD
    "").toList

/-- Bytes of which the first block that does not decode spoils the part in which it would arrive. -/
def ofBytes (bytes : List UInt8) : Source :=
  match Text.decode? bytes with
  | some text => ofCharacters text.toList
  | none =>
    let decoded := decodedBlocks bytes
    let front := ofCharacters (decoded.take (arrivedBefore decoded.length))
    ⟨front.arrived, some (front.fault?.getD .undecodable)⟩

end Source

end Switchboard.Yaml
