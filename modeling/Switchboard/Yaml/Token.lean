import Switchboard.Yaml.Block
import Switchboard.Yaml.Plain
import Switchboard.Yaml.Quoted
import Switchboard.Yaml.Source
import Switchboard.Yaml.Tag

/-!
# Tokens of a YAML text

The indentation of a text is turned into tokens that open and close its blocks, so that what follows can read
tokens without regard to lines and columns. A key in front of a colon is recognised only when the colon is
met; its tokens are then inserted in front of it. Such a key must stand in one line and be short.
-/

namespace Switchboard.Yaml

/-- A part of a text by which its structure is told. -/
inductive Token where
  | version (major : Nat)
  /-- What the names of the tags of a handle begin with. -/
  | handle (name front : String)
  | directive
  | documentStart
  | documentEnd
  | blockSequenceStart
  | blockMappingStart
  | blockEnd
  | sequenceStart
  | sequenceEnd
  | mappingStart
  | mappingEnd
  | blockEntry
  | flowEntry
  | key
  | value
  | alias (name : String)
  | anchor (name : String)
  | tag (handle : Option String) (name : String)
  /-- A text by its code points. -/
  | scalar (points : List Nat) (plain : Bool)
  /-- The text is not read any further. -/
  | broken (fault : Fault)
deriving DecidableEq, Repr

/-- Where a key may have begun that only a later colon would show. -/
structure PendingKey where
  /-- The depth of brackets in which it stands; at most one key is pending at each depth. -/
  depth : Nat
  /-- How many tokens precede it. -/
  position : Nat
  /-- Whether nothing but a key may stand there. -/
  required : Bool
  index : Nat
  line : Nat
  column : Nat

/-- A text partly turned into tokens. -/
structure Lexer where
  rest : List Char
  index : Nat := 0
  line : Nat := 0
  column : Nat := 0
  /-- The column of the innermost open block; below zero outside all blocks. -/
  indent : Int := -1
  /-- The columns of the blocks around it, innermost first. -/
  outer : List Int := []
  /-- How many brackets are open. -/
  depth : Nat := 0
  /-- Whether a key may begin here. -/
  mayBeginKey : Bool := true
  pending : List PendingKey := []
  /-- The tokens found so far, the last one first. -/
  tokens : List Token := []

namespace Lexer

/-- The longest distance in characters between a key and its colon. -/
def keyReach : Nat := 1024

/-- Moves over a character, to the next line after a break. -/
def advanceOne (lexer : Lexer) : Lexer :=
  match lexer.rest with
  | [] => lexer
  | c :: rest =>
    let moved := { lexer with rest, index := lexer.index + 1 }
    if isBreak c && !(c = '\r' && rest.head? = some '\n') then
      { moved with line := lexer.line + 1, column := 0 }
    else if isByteOrderMark c then moved
    else { moved with column := lexer.column + 1 }

/-- Moves over some characters. -/
def advance (lexer : Lexer) : (count : Nat) → Lexer
  | 0 => lexer
  | count + 1 => (lexer.advanceOne).advance count

/-- Moves on for as long as the next character is as asked; `characters` is what is left. -/
def advanceWhile (lexer : Lexer) (asked : Char → Bool) : (characters : List Char) → Lexer
  | [] => lexer
  | c :: rest => if asked c then lexer.advanceOne.advanceWhile asked rest else lexer

/-- Moves on to the end of the spaces and the comment that may stand in front of the rest of a line. -/
def skipSpaces (lexer : Lexer) : Lexer :=
  let spaced := lexer.advanceWhile (· = ' ') lexer.rest
  if spaced.rest.head? = some '#' then spaced.advanceWhile (!isBreak ·) spaced.rest else spaced

/-- Moves on to a given end of the text. -/
def advanceTo (lexer : Lexer) (rest : List Char) : Lexer :=
  lexer.advance (lexer.rest.length - rest.length)

/-- Adds a token. -/
def emit (lexer : Lexer) (token : Token) : Lexer :=
  { lexer with tokens := token :: lexer.tokens }

/-- Inserts a token so that `position` tokens precede it. -/
def insert (lexer : Lexer) (position : Nat) (token : Token) : Lexer :=
  { lexer with tokens := lexer.tokens.insertIdx (lexer.tokens.length - position) token }

/-- Skips spaces, comments and line breaks in front of the next token. The fuel bounds the number of lines. -/
def skipBlanks : (fuel : Nat) → Lexer → Lexer
  | 0, lexer => lexer
  | fuel + 1, lexer =>
    let ahead := lexer.skipSpaces
    match splitBreak? ahead.rest with
    | none => ahead
    | some (_, after) =>
      let next := ahead.advanceTo after
      skipBlanks fuel (if ahead.depth = 0 then { next with mayBeginKey := true } else next)

/-- Whether a pending key is too far away or in an earlier line. -/
def isStale (lexer : Lexer) (key : PendingKey) : Bool :=
  key.line ≠ lexer.line || lexer.index - key.index > keyReach

/-- Gives up the pending keys that are stale. -/
def dropStale (lexer : Lexer) : Except Fault Lexer :=
  if lexer.pending.any fun key => lexer.isStale key && key.required then .error .malformed
  else .ok { lexer with pending := lexer.pending.filter (!lexer.isStale ·) }

/-- Closes the blocks that are indented more deeply than a column. -/
def closeTo (column : Int) : (fuel : Nat) → Lexer → Lexer
  | 0, lexer => lexer
  | fuel + 1, lexer =>
    if lexer.depth = 0 && column < lexer.indent then
      match lexer.outer with
      | [] => { lexer with indent := -1 }.emit .blockEnd
      | indent :: outer => closeTo column fuel ({ lexer with indent, outer }.emit .blockEnd)
    else lexer

/-- Ends the blocks that are indented more than a column. -/
def close (lexer : Lexer) (column : Int) : Lexer :=
  closeTo column (lexer.outer.length + 1) lexer

/-- Gives up the key pending at the present depth. -/
def dropPending (lexer : Lexer) : Except Fault Lexer :=
  if lexer.pending.any fun key => key.depth = lexer.depth && key.required then .error .malformed
  else .ok { lexer with pending := lexer.pending.filter fun key => key.depth ≠ lexer.depth }

/-- Notes that the token to come may be a key. -/
def notePending (lexer : Lexer) : Except Fault Lexer :=
  if lexer.mayBeginKey then do
    let cleared ← lexer.dropPending
    let key : PendingKey :=
      { depth := lexer.depth, position := lexer.tokens.length
        required := lexer.depth = 0 && lexer.indent = lexer.column
        index := lexer.index, line := lexer.line, column := lexer.column }
    return { cleared with pending := key :: cleared.pending }
  else .ok lexer

/-- Whether a column opens a new block. -/
def opensBlock (lexer : Lexer) (column : Nat) : Bool :=
  lexer.depth = 0 && lexer.indent < column

/-- Begins a block at a column. -/
def openBlock (lexer : Lexer) (column : Nat) : Lexer :=
  { lexer with indent := column, outer := lexer.indent :: lexer.outer }

/-- Ends all blocks where the text ends. -/
def finish (lexer : Lexer) : Except Fault Lexer :=
  (lexer.close (-1)).dropPending

/-- The separator or the end of a document. -/
def readSeparator (lexer : Lexer) (token : Token) : Except Fault Lexer := do
  let cleared ← (lexer.close (-1)).dropPending
  return ({ cleared with mayBeginKey := false }.advance 3).emit token

/-- The number before the point of a version and the one after it, and the rest. -/
def readVersion? (characters : List Char) : Option (Nat × List Char) :=
  let body := characters.dropWhile (· = ' ')
  let major := body.takeWhile Numeral.isPlainDigit
  match body.dropWhile Numeral.isPlainDigit with
  | '.' :: rest =>
    let minor := rest.takeWhile Numeral.isPlainDigit
    if major.isEmpty || minor.isEmpty then none
    else some (Numeral.valueOf 10 major, rest.dropWhile Numeral.isPlainDigit)
  | _ => none

/-- A directive after its mark and what follows it. Directives of other names say nothing. -/
def splitDirective? (characters : List Char) : Option (Token × List Char) :=
  let name := characters.takeWhile isNameChar
  let rest := characters.dropWhile isNameChar
  if name.isEmpty || !atSpaceOrLineEnd rest then none
  else if name = "YAML".toList then
    (readVersion? rest).map fun version => (.version version.1, version.2)
  else if name = "TAG".toList then
    (Tag.splitDirective? rest).map fun split => (.handle split.1 split.2.1, split.2.2)
  else some (.directive, rest.dropWhile (!isBreak ·))

/-- A directive to the end of its line, where a comment may stand. -/
def readDirective (lexer : Lexer) : Except Fault Lexer := do
  let cleared ← (lexer.close (-1)).dropPending
  match splitDirective? (lexer.rest.drop 1) with
  | none => throw .malformed
  | some (token, rest) =>
    if !atSpaceOrLineEnd rest then throw .malformed
    let ending := skipComment (rest.dropWhile (· = ' '))
    if !atLineEnd ending then throw .malformed
    return ({ cleared with mayBeginKey := false }.advanceTo ending).emit token

/-- An opening bracket, which may begin a key and inside which keys may begin. -/
def openBracket (lexer : Lexer) (token : Token) : Except Fault Lexer := do
  let noted ← lexer.notePending
  return ({ noted with depth := lexer.depth + 1, mayBeginKey := true }.advance 1).emit token

/-- A closing bracket; one that closes nothing is left for the reader of the tokens to refuse. -/
def closeBracket (lexer : Lexer) (token : Token) : Except Fault Lexer := do
  let cleared ← lexer.dropPending
  return ({ cleared with depth := lexer.depth - 1, mayBeginKey := false }.advance 1).emit token

/-- The comma between the entries of a collection in brackets. -/
def readFlowEntry (lexer : Lexer) : Except Fault Lexer := do
  let cleared ← lexer.dropPending
  return ({ cleared with mayBeginKey := true }.advance 1).emit .flowEntry

/-- An item of a block sequence, which opens the block if it is indented more deeply. -/
def readBlockEntry (lexer : Lexer) : Except Fault Lexer := do
  if lexer.depth = 0 && !lexer.mayBeginKey then throw .malformed
  let opened :=
    if lexer.opensBlock lexer.column then
      (lexer.openBlock lexer.column).emit .blockSequenceStart
    else lexer
  let cleared ← opened.dropPending
  return ({ cleared with mayBeginKey := true }.advance 1).emit .blockEntry

/-- A key that is marked as one. -/
def readMarkedKey (lexer : Lexer) : Except Fault Lexer := do
  if lexer.depth = 0 && !lexer.mayBeginKey then throw .malformed
  let opened :=
    if lexer.opensBlock lexer.column then
      (lexer.openBlock lexer.column).emit .blockMappingStart
    else lexer
  let cleared ← opened.dropPending
  return ({ cleared with mayBeginKey := lexer.depth = 0 }.advance 1).emit .key

/-- A colon: what is pending at this depth becomes a key. -/
def readColon (lexer : Lexer) : Except Fault Lexer :=
  match lexer.pending.find? fun key => key.depth = lexer.depth with
  | some key =>
    let known :=
      { lexer with
        pending := lexer.pending.filter fun other => other.depth ≠ lexer.depth
        mayBeginKey := false }
    let marked := known.insert key.position .key
    let opened :=
      if marked.opensBlock key.column then
        (marked.openBlock key.column).insert key.position .blockMappingStart
      else marked
    .ok ((opened.advance 1).emit .value)
  | none => do
    if lexer.depth = 0 && !lexer.mayBeginKey then throw .malformed
    let opened :=
      if lexer.opensBlock lexer.column then
        (lexer.openBlock lexer.column).emit .blockMappingStart
      else lexer
    let cleared ← opened.dropPending
    return ({ cleared with mayBeginKey := lexer.depth = 0 }.advance 1).emit .value

/-- An anchor or an alias: a mark and a name. -/
def readName (lexer : Lexer) (token : String → Token) : Except Fault Lexer := do
  let noted ← lexer.notePending
  let name := (lexer.rest.drop 1).takeWhile isNameChar
  let after := (lexer.rest.drop 1).dropWhile isNameChar
  let ends := atBlank after || after.head?.any fun next => "?:,]\x7d%@\x60".toList.contains next
  if name.isEmpty || !ends then throw .malformed
  return ({ noted with mayBeginKey := false }.advanceTo after).emit (token (String.ofList name))

/-- A tag in front of a node. -/
def readTag (lexer : Lexer) : Except Fault Lexer := do
  let noted ← lexer.notePending
  match Tag.splitWritten? (lexer.rest.drop 1) with
  | none => throw .malformed
  | some (handle, name, after) =>
    if !atSpaceOrLineEnd after then throw .malformed
    return ({ noted with mayBeginKey := false }.advanceTo after).emit (.tag handle name)

/-- A text that is written as a block, its lines kept or folded. -/
def readBlockText (lexer : Lexer) (folds : Bool) : Except Fault Lexer := do
  let cleared ← lexer.dropPending
  let (text, after) ← readBlock folds lexer.indent (lexer.rest.drop 1)
  return ({ cleared with mayBeginKey := true }.advanceTo after).emit
    (.scalar (text.map Char.toNat) false)

/-- A text in quotes. -/
def readQuotedText (lexer : Lexer) (quote : Char) : Except Fault Lexer := do
  let noted ← lexer.notePending
  let (text, after) ← readQuoted quote lexer.rest.length (lexer.rest.drop 1)
  return ({ noted with mayBeginKey := false }.advanceTo after).emit (.scalar text false)

/-- A text without quotes. -/
def readPlainText (lexer : Lexer) : Except Fault Lexer := do
  let noted ← lexer.notePending
  let plain := readPlain (0 < lexer.depth) (lexer.indent + 1).toNat (lexer.rest.length + 1) false []
    lexer.rest
  return ({ noted with mayBeginKey := plain.broken }.advanceTo plain.rest).emit
    (.scalar (plain.text.map Char.toNat) true)

/-- Whether a plain text may begin with a character; `rest` follows it. -/
def beginsPlain (lexer : Lexer) (c : Char) (rest : List Char) : Bool :=
  !(isSpaceOrTab c || isBreak c || "-?:,[]\x7b\x7d#&*!|>'\"%@\x60".toList.contains c) ||
    (!atBlank rest && (c = '-' || (lexer.depth = 0 && (c = '?' || c = ':'))))

/-- The token that begins with a character; `rest` follows it. -/
def readToken (lexer : Lexer) (c : Char) (rest : List Char) : Except Fault Lexer :=
  if c = '%' && lexer.column = 0 then lexer.readDirective
  else if c = '-' && lexer.column = 0 && atSeparator (c :: rest) then
    lexer.readSeparator .documentStart
  else if c = '.' && lexer.column = 0 && atSeparator (c :: rest) then
    lexer.readSeparator .documentEnd
  else if c = '[' then lexer.openBracket .sequenceStart
  else if c = '\x7b' then lexer.openBracket .mappingStart
  else if c = ']' then lexer.closeBracket .sequenceEnd
  else if c = '\x7d' then lexer.closeBracket .mappingEnd
  else if c = ',' then lexer.readFlowEntry
  else if c = '-' && atBlank rest then lexer.readBlockEntry
  else if c = '?' && (0 < lexer.depth || atBlank rest) then lexer.readMarkedKey
  else if c = ':' && (0 < lexer.depth || atBlank rest) then lexer.readColon
  else if c = '*' then lexer.readName .alias
  else if c = '&' then lexer.readName .anchor
  else if c = '!' then lexer.readTag
  else if c = '|' && lexer.depth = 0 then lexer.readBlockText false
  else if c = '>' && lexer.depth = 0 then lexer.readBlockText true
  else if c = '\x27' || c = '"' then lexer.readQuotedText c
  else if lexer.beginsPlain c rest then lexer.readPlainText
  else .error .malformed

/-- Reads one more token, or finishes the text at its end. -/
def readNext (lexer : Lexer) : Except Fault Lexer := do
  let fresh ← lexer.dropStale
  let placed := fresh.close fresh.column
  match placed.rest with
  | [] => placed.finish
  | c :: rest => placed.readToken c rest

/-- The tokens that stay as they are whatever follows: those in front of every pending key. -/
def settled (lexer : Lexer) : List Token :=
  let pending := lexer.pending.filter (!lexer.isStale ·)
  lexer.tokens.reverse.take ((pending.map (·.position)).foldl min lexer.tokens.length)

/-- The tokens of the text from here on. `beyond` is what is wrong with the part after it, if there is one: that
is found by whatever reaches the end. -/
def run (beyond : Option Fault) : (fuel : Nat) → Lexer → List Token
  | 0, lexer => lexer.settled ++ [.broken .malformed]
  | fuel + 1, lexer =>
    let ahead := lexer.skipBlanks (fuel + 1)
    match beyond, ahead.readNext with
    | none, .error fault => lexer.settled ++ [.broken fault]
    | none, .ok next => if ahead.rest.isEmpty then next.tokens.reverse else run beyond fuel next
    | some later, .error fault =>
      let met := if ahead.rest.isEmpty || fault = .unclosed then later else fault
      lexer.settled ++ [.broken met]
    | some later, .ok next =>
      if next.rest.isEmpty then lexer.settled ++ [.broken later] else run beyond fuel next

end Lexer

/-- How much deeper in collections a text is after a token. -/
def Token.descent : Token → Int
  | .blockSequenceStart | .blockMappingStart | .sequenceStart | .mappingStart => 1
  | .blockEnd | .sequenceEnd | .mappingEnd => -1
  | _ => 0

/-- How many collections may stand in one another. -/
def Token.depthLimit : Int := 489

/-- The tokens up to a collection that stands inside too many others. -/
def Token.upToDepth (depth : Int) : List Token → List Token
  | [] => []
  | token :: rest =>
    let next := depth + token.descent
    if depthLimit < next then [.broken .tooDeep] else token :: upToDepth next rest

/-- The tokens of a text, in order. A mark of the byte order at its front is no part of it. -/
def Token.scan (source : Source) : List Token :=
  let body :=
    match source.arrived with
    | c :: rest => if isByteOrderMark c then rest else c :: rest
    | [] => []
  upToDepth 0 (Lexer.run source.fault? (body.length + 1) { rest := body })

end Switchboard.Yaml
