/-!
# The cyclic redundancy check

The 32-bit check with the reflected polynomial `0xEDB88320`, all ones at the start and inverted at the end,
taken over a list of bytes.
-/

namespace Switchboard.Checksum

/-- One bit of a byte, least significant first. -/
def shift (state : UInt32) : UInt32 :=
  if state &&& 1 = 1 then (state >>> 1) ^^^ 0xEDB88320 else state >>> 1

/-- The check after one more byte. -/
def feed (state : UInt32) (byte : UInt8) : UInt32 :=
  let mixed := state ^^^ byte.toUInt32
  shift (shift (shift (shift (shift (shift (shift (shift mixed)))))))

/-- The check of a list of bytes. -/
def ofBytes (bytes : List UInt8) : UInt32 :=
  bytes.foldl feed 0xFFFFFFFF ^^^ 0xFFFFFFFF

end Switchboard.Checksum
