import Switchboard.Text.CodePoint
import Switchboard.Yaml.Character

/-!
# Quoted texts

A text between single quotes knows one escape, the doubled quote; between double quotes a backslash escapes
characters by letter or by code point, and halves of pairs by code point. Line breaks inside either are
folded, and blanks around them dropped.
-/

namespace Switchboard.Yaml

/-- The character that a one-letter escape stands for. -/
def simpleEscape? (c : Char) : Option Char :=
  ([ ('0', 0x00), ('a', 0x07), ('b', 0x08), ('t', 0x09), ('\t', 0x09), ('n', 0x0A), ('v', 0x0B),
     ('f', 0x0C), ('r', 0x0D), ('e', 0x1B), (' ', 0x20), ('"', 0x22), ('\\', 0x5C), ('/', 0x2F),
     ('N', 0x85), ('_', 0xA0), ('L', 0x2028), ('P', 0x2029) ].lookup c).map Char.ofNat

/-- How many digits an escape by code point has. -/
def escapeWidth? : Char → Option Nat
  | 'x' => some 2
  | 'u' => some 4
  | 'U' => some 8
  | _ => none

/-- The code point of an escape, which may be that of a half, and what follows it. -/
def readCodePoint (width : Nat) (characters : List Char) : Except Fault (Nat × List Char) :=
  match Text.readHexadecimal? width 0 characters with
  | none => .error .malformed
  | some (point, rest) =>
    if 0x7FFFFFFF < point then .error (.scalar .codeRange)
    else if 0x10FFFF < point then .error (.scalar .codePoint)
    else .ok (point, rest)

/-- The line breaks at the front of a list, with the blanks before them dropped, and what follows. A separator
of documents at the front of a line is refused. -/
def splitBreaks : (fuel : Nat) → List Char → Except Fault (List Char × List Char)
  | 0, _ => .error .malformed
  | fuel + 1, characters =>
    if atSeparator characters then .error .malformed
    else
      let rest := characters.dropWhile isSpaceOrTab
      match splitBreak? rest with
      | none => .ok ([], rest)
      | some (first, after) =>
        (splitBreaks fuel after).map fun split => (first :: split.1, split.2)

/-- The code points of the rest of a quoted text after its opening quote, and what follows the closing one.
The fuel bounds the number of characters. -/
def readQuoted (quote : Char) : (fuel : Nat) → List Char → Except Fault (List Nat × List Char)
  | 0, _ => .error .malformed
  | _, [] => .error .unclosed
  | fuel + 1, c :: rest =>
    let continueWith (read following : List Char) : Except Fault (List Nat × List Char) :=
      (readQuoted quote fuel following).map fun result =>
        (read.map Char.toNat ++ result.1, result.2)
    if c = quote then
      if quote = '\x27' && rest.head? = some quote then continueWith [quote] rest.tail
      else .ok ([], rest)
    else if c = '\\' && quote = '"' then
      match rest with
      | [] => .error .unclosed
      | mark :: after =>
        match simpleEscape? mark with
        | some escaped => continueWith [escaped] after
        | none =>
          match escapeWidth? mark with
          | some width => do
            let (escaped, following) ← readCodePoint width after
            let (read, ending) ← readQuoted quote fuel following
            return (escaped :: read, ending)
          | none =>
            match splitBreak? rest with
            | some (_, following) => do
              let (breaks, lineStart) ← splitBreaks fuel following
              continueWith breaks lineStart
            | none => .error .malformed
    else if isSpaceOrTab c || isBreak c then
      let blanks := (c :: rest).takeWhile isSpaceOrTab
      let afterBlanks := (c :: rest).dropWhile isSpaceOrTab
      match splitBreak? afterBlanks with
      | none => continueWith blanks afterBlanks
      | some (first, following) => do
        let (breaks, lineStart) ← splitBreaks fuel following
        continueWith (folded first breaks) lineStart
    else continueWith [c] rest

end Switchboard.Yaml
