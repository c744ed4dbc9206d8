import Switchboard.Text.Case
import Switchboard.Text.Letter
import Switchboard.Text.Split

/-!
# Dialable addresses

An address is a scheme and the part specific to it, written `scheme:part`. A text without a scheme of
letters before its first colon is a telephone number as a whole.
-/

namespace Switchboard

/-- An address that can be dialled. -/
structure Address where
  scheme : String
  part : String
deriving DecidableEq, Repr

namespace Address

/-- The scheme of a plain telephone number. -/
def defaultScheme : String := "tel"

/-- Reads an address, which has a scheme of its own where letters stand before a colon. -/
def parse (written : String) : Address :=
  match Text.splitAt? ':' written.toList with
  | none => ⟨defaultScheme, written⟩
  | some (scheme, part) =>
    if Text.isAlphabetic (String.ofList scheme) then
      ⟨Text.lower (String.ofList scheme), String.ofList part⟩
    else ⟨defaultScheme, written⟩

/-- Writes an address. -/
def render (address : Address) : String :=
  address.scheme ++ ":" ++ address.part

end Address

end Switchboard
