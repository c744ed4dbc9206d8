import Switchboard.Yaml.Character

/-!
# Block texts

A block text begins with a header and goes on for as long as its lines are indented. Its line breaks are kept,
or folded between lines that do not begin with a blank; the header also says which breaks at its end are kept.
-/

namespace Switchboard.Yaml

/-- What the header of a block text says: whether all breaks at the end are kept or none, and how much deeper
than its parent the text is indented, if that is said. -/
structure BlockHeader where
  keepsEnd : Option Bool
  extraIndent : Option Nat

/-- Reads the sign of a header. -/
def headerSign? : List Char → Option (Bool × List Char)
  | '+' :: rest => some (true, rest)
  | '-' :: rest => some (false, rest)
  | _ => none

/-- Reads the digit of a header, which is not zero. -/
def headerDigit : List Char → Except Fault (Option Nat × List Char)
  | [] => .ok (none, [])
  | c :: rest =>
    if c = '0' then .error .malformed
    else if Numeral.isPlainDigit c then .ok (some (c.toNat - '0'.toNat), rest)
    else .ok (none, c :: rest)

/-- Reads the sign and the digit of a header in either order. -/
def readIndicators (characters : List Char) : Except Fault (BlockHeader × List Char) :=
  match headerSign? characters with
  | some (keeps, rest) => do
    let (extra, after) ← headerDigit rest
    return (⟨some keeps, extra⟩, after)
  | none => do
    let (extra, after) ← headerDigit characters
    match extra, headerSign? after with
    | some _, some (keeps, following) => return (⟨some keeps, extra⟩, following)
    | _, _ => return (⟨none, extra⟩, after)

/-- Reads a header to the end of its line. -/
def readHeader (characters : List Char) : Except Fault (BlockHeader × List Char) := do
  let (header, rest) ← readIndicators characters
  if !atSpaceOrLineEnd rest then throw .malformed
  let after := skipComment (rest.dropWhile (· = ' '))
  match splitBreak? after with
  | some (_, following) => return (header, following)
  | none => if after.isEmpty then return (header, []) else throw .malformed

/-- The blank lines at the front, the deepest column met there, the column reached and the rest. -/
def measureIndent : (fuel : Nat) → (column deepest : Nat) → List Char →
    List Char × Nat × Nat × List Char
  | 0, column, deepest, characters => ([], deepest, column, characters)
  | fuel + 1, column, deepest, characters =>
    match characters with
    | ' ' :: rest => measureIndent fuel (column + 1) (max deepest (column + 1)) rest
    | _ =>
      match splitBreak? characters with
      | none => ([], deepest, column, characters)
      | some (first, rest) =>
        let (breaks, reached) := measureIndent fuel 0 deepest rest
        (first :: breaks, reached)

/-- Skips spaces up to a column. -/
def skipIndent (indent : Nat) : (column : Nat) → List Char → Nat × List Char
  | column, ' ' :: rest =>
    if column < indent then skipIndent indent (column + 1) rest else (column, ' ' :: rest)
  | column, characters => (column, characters)

/-- The blank lines at the front of a line, then the column reached and the rest. -/
def skipBlankLines (indent : Nat) : (fuel : Nat) → (column : Nat) → List Char →
    List Char × Nat × List Char
  | 0, column, characters => ([], column, characters)
  | fuel + 1, column, characters =>
    let (reached, rest) := skipIndent indent column characters
    match splitBreak? rest with
    | none => ([], reached, rest)
    | some (first, after) =>
      let (breaks, final) := skipBlankLines indent fuel 0 after
      (first :: breaks, final)

/-- Whether a line begins with a space or a tab. -/
def startsBlank : List Char → Bool
  | [] => false
  | c :: _ => isSpaceOrTab c

/-- The lines of a block text at its column: their text, the last line break, the blank lines after it, and
the rest. -/
def readLines (folds : Bool) (indent : Nat) : (fuel : Nat) → (breaks : List Char) → (column : Nat) →
    (characters : List Char) → List Char × List Char × List Char × List Char
  | 0, breaks, _, characters => ([], [], breaks, characters)
  | fuel + 1, breaks, column, characters =>
    if column ≠ indent || characters.isEmpty then ([], [], breaks, characters)
    else
      let content := characters.takeWhile (!isBreak ·)
      let (lineBreak, next) :=
        match splitBreak? (characters.dropWhile (!isBreak ·)) with
        | some (first, rest) => ([first], rest)
        | none => ([], [])
      let (following, reached, rest) := skipBlankLines indent (next.length + 1) 0 next
      let head := breaks ++ content
      if reached ≠ indent || rest.isEmpty then (head, lineBreak, following, rest)
      else
        let joint :=
          if folds && lineBreak = ['\n'] && !startsBlank characters && !startsBlank rest then
            if following.isEmpty then [' '] else []
          else lineBreak
        let (text, last) := readLines folds indent fuel following reached rest
        (head ++ joint ++ text, last)

/-- The block text after its mark, and what follows it. `parent` is the column of the surrounding block. -/
def readBlock (folds : Bool) (parent : Int) (characters : List Char) :
    Except Fault (List Char × List Char) := do
  let (header, body) ← readHeader characters
  let fuel := body.length + 1
  let least := max (parent + 1) 1 |>.toNat
  let (indent, breaks, column, rest) :=
    match header.extraIndent with
    | some extra =>
      let indent := least + extra - 1
      let (breaks, column, rest) := skipBlankLines indent fuel 0 body
      (indent, breaks, column, rest)
    | none =>
      let (breaks, deepest, column, rest) := measureIndent fuel 0 0 body
      (max least deepest, breaks, column, rest)
  let (text, lastBreak, blankLines, after) := readLines folds indent fuel breaks column rest
  let ending :=
    match header.keepsEnd with
    | some false => []
    | some true => lastBreak ++ blankLines
    | none => lastBreak
  return (text ++ ending, after)

end Switchboard.Yaml
