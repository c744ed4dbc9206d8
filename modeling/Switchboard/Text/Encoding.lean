import Switchboard.Text.CodePoint

/-!
# Texts in bytes

Files hold UTF-8. When one is read as a text, every kind of line ending becomes a line feed. A text that is
written as UTF-8 keeps its line endings, but it must not hold halves of pairs.
-/

namespace Switchboard.Text

/-- Line feeds for all line endings: a carriage return, alone or in front of a line feed. -/
def lineFeeds : List Char → List Char
  | [] => []
  | '\r' :: '\n' :: rest => '\n' :: lineFeeds rest
  | c :: rest => (if c = '\r' then '\n' else c) :: lineFeeds rest

/-- The text that bytes hold, if they are well formed. -/
def decode? (bytes : List UInt8) : Option String :=
  (String.fromUTF8? ⟨bytes.toArray⟩).map fun text => String.ofList (lineFeeds text.toList)

/-- The text that bytes hold up to a character that is cut off at their end: at most three bytes of it are
there. -/
def decodeFront? (bytes : List UInt8) : Option String :=
  (List.range 4).findSome? fun cut => decode? (bytes.take (bytes.length - cut))

/-- Halves of pairs in a row, by the first of them and its place. -/
structure Stretch where
  first : CodePoint
  place : Nat
  length : Nat
deriving DecidableEq, Repr

/-- What is said of halves of pairs that are not written. -/
def Stretch.note (stretch : Stretch) : String :=
  if stretch.length = 1 then
    "'utf-8' codec can't encode character '\\u" ++ String.ofList (hexadecimal 4 stretch.first) ++
      s!"' in position {stretch.place}: surrogates not allowed"
  else
    s!"'utf-8' codec can't encode characters in position {stretch.place}-" ++
      s!"{stretch.place + stretch.length - 1}: surrogates not allowed"

/-- The first halves of pairs in a text that begins at a place. -/
def firstHalves? (place : Nat) : CodePoints → Option Stretch
  | [] => none
  | point :: rest =>
    if isHalf point then
      some ⟨point, place, (rest.takeWhile fun next : CodePoint => isHalf next).length + 1⟩
    else firstHalves? (place + 1) rest

/-- The bytes that write a text. -/
def encode (text : CodePoints) : Except Stretch (List UInt8) :=
  match firstHalves? 0 text with
  | some stretch => .error stretch
  | none => .ok (text.flatMap fun point : CodePoint => String.utf8EncodeChar (charAt point))

end Switchboard.Text
