import Switchboard.Text.CodePoint
import Switchboard.Text.Printable

/-!
# Quoted text

A text inside a message is quoted: by single quotes, or by double quotes when it holds a single quote and
no double quote. The quote in use, the backslash and the characters that are not printable are written as
escapes; everything else stands for itself.
-/

namespace Switchboard.Text

/-- How one character is written between quotes of the given kind. -/
def quotedChar (quote c : Char) : List Char :=
  if c = quote || c = '\\' then ['\\', c]
  else if c = '\n' then ['\\', 'n']
  else if c = '\r' then ['\\', 'r']
  else if c = '\t' then ['\\', 't']
  else if isPrintable c then [c]
  else if c.toNat < 0x100 then '\\' :: 'x' :: hexadecimal 2 c.toNat
  else if c.toNat < 0x10000 then '\\' :: 'u' :: hexadecimal 4 c.toNat
  else '\\' :: 'U' :: hexadecimal 8 c.toNat

/-- The quote to use around a text. -/
def quoteFor (characters : List Char) : Char :=
  if characters.contains '\x27' && !characters.contains '"' then '"' else '\x27'

/-- Characters in quotes. -/
def quotedList (characters : List Char) : List Char :=
  let quote := quoteFor characters
  quote :: (characters.flatMap (quotedChar quote) ++ [quote])

/-- A text in quotes, as it stands in messages. -/
def quoted (text : String) : String :=
  String.ofList (quotedList text.toList)

/-- How one code point is written; a half is escaped. -/
def quotedPoint (quote : Char) (point : Nat) : List Char :=
  if isHalf point then '\\' :: 'u' :: hexadecimal 4 point else quotedChar quote (Char.ofNat point)

/-- A text that is given by its code points between quotes. -/
def quotedPoints (points : List Nat) : String :=
  let quote := quoteFor (points.map charAt)
  String.ofList (quote :: (points.flatMap (quotedPoint quote) ++ [quote]))

end Switchboard.Text
