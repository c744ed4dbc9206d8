import Switchboard.Yaml.Fault

/-!
# Characters of a YAML text

The classes of characters that structure a text.
-/

namespace Switchboard.Yaml

/-- The characters that may stand in a text at all. -/
def isAllowed (c : Char) : Bool :=
  let point := c.toNat
  point = 0x09 || point = 0x0A || point = 0x0D || (0x20 ≤ point && point ≤ 0x7E) || point = 0x85 ||
    (0xA0 ≤ point && point ≤ 0xFFFD) || 0x10000 ≤ point

/-- The mark that may open a text and takes no room in a line. -/
def isByteOrderMark (c : Char) : Bool := c.toNat = 0xFEFF

/-- Whether a character ends a line. -/
def isBreak (c : Char) : Bool :=
  c = '\n' || c = '\r' || c.toNat = 0x85 || c.toNat = 0x2028 || c.toNat = 0x2029

/-- Whether a character is a space or a tab. -/
def isSpaceOrTab (c : Char) : Bool := c = ' ' || c = '\t'

/-- Whether an indicator at the front may end here: the text ends, or a blank or a line break follows. -/
def atBlank : List Char → Bool
  | [] => true
  | c :: _ => isSpaceOrTab c || isBreak c

/-- Whether the line is over, or the text. -/
def atLineEnd : List Char → Bool
  | [] => true
  | c :: _ => isBreak c

/-- Whether a space, a line break or the end follows, but no tab. -/
def atSpaceOrLineEnd (characters : List Char) : Bool :=
  characters.head? = some ' ' || atLineEnd characters

/-- Whether a line begins with the separator of two documents or with the end of one. -/
def atSeparator : List Char → Bool
  | '-' :: '-' :: '-' :: rest => atBlank rest
  | '.' :: '.' :: '.' :: rest => atBlank rest
  | _ => false

/-- A line break as it is kept, with what follows it; the separators of lines and paragraphs stay
themselves. -/
def splitBreak? : List Char → Option (Char × List Char)
  | '\r' :: '\n' :: rest => some ('\n', rest)
  | [] => none
  | c :: rest =>
    if c.toNat = 0x2028 || c.toNat = 0x2029 then some (c, rest)
    else if isBreak c then some ('\n', rest)
    else none

/-- The characters of names: of anchors and directives. -/
def isNameChar (c : Char) : Bool :=
  ('0' ≤ c && c ≤ '9') || ('A' ≤ c && c ≤ 'Z') || ('a' ≤ c && c ≤ 'z') || c = '-' || c = '_'

/-- The characters of a tag apart from percent escapes. -/
def isTagChar (c : Char) : Bool :=
  isNameChar c || ";/?:@&=+$,.!~*'()[]".toList.contains c

/-- A rest that begins after the comment at its front, if there is one. -/
def skipComment (characters : List Char) : List Char :=
  if characters.head? = some '#' then characters.dropWhile (!isBreak ·) else characters

/-- What separates two lines of a folded text: a single line feed becomes a space, further breaks stay. -/
def folded (first : Char) (breaks : List Char) : List Char :=
  if first ≠ '\n' then first :: breaks
  else if breaks.isEmpty then [' ']
  else breaks

end Switchboard.Yaml
