import Switchboard.Yaml.Character

/-!
# Plain texts

A plain text has no quotes. It ends at a comment, at a colon that is followed by a blank, at an indicator of
the collection in brackets that surrounds it, or at a line that is not indented deeply enough. Its lines are
folded.
-/

namespace Switchboard.Yaml

/-- Whether a character belongs to a plain text; `rest` follows it. -/
def isPlainChar (inBrackets : Bool) (c : Char) (rest : List Char) : Bool :=
  !(isSpaceOrTab c || isBreak c) &&
    !(c = ':' &&
      (atBlank rest ||
        (inBrackets && rest.head?.any fun next => ",[]\x7b\x7d".toList.contains next))) &&
    !(inBrackets && ",?[]\x7b\x7d".toList.contains c)

/-- The plain characters at the front of a list, and what follows them. -/
def splitPlain (inBrackets : Bool) : List Char → List Char × List Char
  | [] => ([], [])
  | c :: rest =>
    if isPlainChar inBrackets c rest then
      let (plain, after) := splitPlain inBrackets rest
      (c :: plain, after)
    else ([], c :: rest)

/-- The gap after a stretch of plain characters. -/
structure Gap where
  /-- What joins the next stretch, or nothing if none may follow. -/
  joint : List Char
  /-- Whether a line break was met. -/
  broken : Bool
  /-- The column of what follows, counted from the last line break met. -/
  column : Nat
  rest : List Char

/-- The line breaks and spaces at the front of a line: the breaks, the column reached and what follows. None
if a line begins with a separator of documents. -/
def splitLines? : (fuel : Nat) → (column : Nat) → List Char → Option (List Char) × Nat × List Char
  | 0, column, characters => (none, column, characters)
  | fuel + 1, column, characters =>
    match characters with
    | ' ' :: rest => splitLines? fuel (column + 1) rest
    | _ =>
      match splitBreak? characters with
      | none => (some [], column, characters)
      | some (first, after) =>
        if atSeparator after then (none, 0, after)
        else
          let (breaks, reached, rest) := splitLines? fuel 0 after
          (breaks.map (first :: ·), reached, rest)

/-- The gap at the front of a list. -/
def splitGap (characters : List Char) : Gap :=
  let spaces := characters.takeWhile (· = ' ')
  let rest := characters.dropWhile (· = ' ')
  match splitBreak? rest with
  | none => { joint := spaces, broken := false, column := 0, rest }
  | some (first, after) =>
    if atSeparator after then { joint := [], broken := true, column := 0, rest := after }
    else
      match splitLines? (after.length + 1) 0 after with
      | (none, column, following) => { joint := [], broken := true, column, rest := following }
      | (some breaks, column, following) =>
        { joint := folded first breaks, broken := true, column, rest := following }

/-- A plain text: its characters, whether a line break follows it directly, and the rest. -/
structure PlainText where
  text : List Char
  broken : Bool
  rest : List Char

/-- The plain text at the front of a list. Lines after the first must reach column `indent`, unless brackets
surround the text. -/
def readPlain (inBrackets : Bool) (indent : Nat) : (fuel : Nat) → (broken : Bool) →
    (joint : List Char) → List Char → PlainText
  | 0, broken, _, characters => { text := [], broken, rest := characters }
  | fuel + 1, broken, joint, characters =>
    let (plain, after) := splitPlain inBrackets characters
    if characters.head? = some '#' || plain.isEmpty then { text := [], broken, rest := characters }
    else
      let gap := splitGap after
      if gap.joint.isEmpty || gap.rest.head? = some '#' ||
          (!inBrackets && gap.broken && gap.column < indent) then
        { text := joint ++ plain, broken := gap.broken, rest := gap.rest }
      else
        let following := readPlain inBrackets indent fuel gap.broken gap.joint gap.rest
        { following with text := joint ++ plain ++ following.text }

end Switchboard.Yaml
