import Switchboard.Text.Case.Mapping
import Switchboard.Text.Case.Context

/-!
# Small and capital forms of a text

Both are the full mappings: a character may become several, and a capital sigma becomes the final small
sigma where a word ends. Neither depends on a language.
-/

namespace Switchboard.Text

/-- The small form of one character, apart from its surroundings. -/
def smallOf (c : Char) : List Char :=
  if c.toNat = 0x0130 then ['i', Char.ofNat 0x0307]
  else match CaseRun.image? smallRuns c.toNat with
    | some point => [Char.ofNat point]
    | none => [c]

/-- The capital form of one character. -/
def capitalOf (c : Char) : List Char :=
  match longCapitals.lookup c.toNat with
  | some points => points.map Char.ofNat
  | none =>
    match CaseRun.image? capitalRuns c.toNat with
    | some point => [Char.ofNat point]
    | none => [c]

/-- The small form of a text, given the characters before it, nearest first. -/
def smallAfter (before : List Char) : List Char → List Char
  | [] => []
  | c :: rest =>
    let small :=
      if c.toNat = 0x03A3 then
        [Char.ofNat (if meetsCased before && !meetsCased rest then 0x03C2 else 0x03C3)]
      else smallOf c
    small ++ smallAfter (c :: before) rest

/-- The small form of a text. -/
def lower (text : String) : String :=
  String.ofList (smallAfter [] text.toList)

/-- The capital form of a text. -/
def upper (text : String) : String :=
  String.ofList (text.toList.flatMap capitalOf)

end Switchboard.Text
