import Switchboard.Text.Quoted

/-!
# Octets in text

Sequences of octets are written as literals, with a mark in front of the quotes, and as text of sixty-four
characters, each of which stands for six bits. That text may be broken anywhere by other characters; it ends
with marks where its bits do not fill whole octets. Octets have capital forms as far as they stand for plain
letters.
-/

namespace Switchboard.Text

/-- How one octet is written between quotes of the given kind. -/
def octetLiteral (quote : Char) (octet : UInt8) : List Char :=
  let c := Char.ofNat octet.toNat
  if c = quote || c = '\\' then ['\\', c]
  else if c = '\n' then ['\\', 'n']
  else if c = '\r' then ['\\', 'r']
  else if c = '\t' then ['\\', 't']
  else if ' ' ≤ c && c ≤ '~' then [c]
  else '\\' :: 'x' :: hexadecimal 2 octet.toNat

/-- The capital form of an octet that stands for a plain small letter. -/
def capitalOctet (octet : UInt8) : UInt8 :=
  if 0x61 ≤ octet && octet ≤ 0x7A then octet - 0x20 else octet

/-- Octets as a literal. -/
def octetsLiteral (octets : List UInt8) : String :=
  let quote := quoteFor (octets.map fun octet => Char.ofNat octet.toNat)
  String.ofList ('b' :: quote :: (octets.flatMap (octetLiteral quote) ++ [quote]))

/-- The six bits that a character stands for. -/
def sixBits? (c : Char) : Option Nat :=
  if 'A' ≤ c && c ≤ 'Z' then some (c.toNat - 'A'.toNat)
  else if 'a' ≤ c && c ≤ 'z' then some (c.toNat - 'a'.toNat + 26)
  else if '0' ≤ c && c ≤ '9' then some (c.toNat - '0'.toNat + 52)
  else if c = '+' then some 62
  else if c = '/' then some 63
  else none

/-- Reads octets from where `count` characters of a group of four were read; `bits` are those that do not fill
an octet yet, and `marks` is how many marks precede. A group of two or three characters must be ended by as
many marks as it lacks, and what follows these is not looked at. -/
def readOctetsFrom? (count bits marks : Nat) : List Char → Option (List UInt8)
  | [] => if count = 0 then some [] else none
  | c :: rest =>
    if c = '=' then
      if count < 2 then readOctetsFrom? count bits marks rest
      else if 4 ≤ count + marks + 1 then some []
      else readOctetsFrom? count bits (marks + 1) rest
    else
      match sixBits? c with
      | none => readOctetsFrom? count bits marks rest
      | some value =>
        match count with
        | 0 => readOctetsFrom? 1 value 0 rest
        | 1 => (readOctetsFrom? 2 (value % 16) 0 rest).map ((bits * 4 + value / 16).toUInt8 :: ·)
        | 2 => (readOctetsFrom? 3 (value % 4) 0 rest).map ((bits * 16 + value / 4).toUInt8 :: ·)
        | _ => (readOctetsFrom? 0 0 0 rest).map ((bits * 64 + value).toUInt8 :: ·)

/-- The octets that a text stands for; none if a group of its characters is left unfinished. -/
def readOctets? (characters : List Char) : Option (List UInt8) := readOctetsFrom? 0 0 0 characters

end Switchboard.Text
