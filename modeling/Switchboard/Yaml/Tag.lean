import Switchboard.Yaml.Character

/-!
# Tags

A tag tells what kind of thing a node is. The standard tags have a name of their own in the library; of all
others it is only known that they are not standard. A tag is written as a handle, for which a directive may
give the front of its name, and the rest of its name, in which a percent sign and two digits stand for an
octet.
-/

namespace Switchboard.Yaml

/-- What a node is made into. -/
inductive Tag where
  | null | bool | int | float | octets | timestamp | text
  | sequence | mapping | set
  /-- A sequence of mappings with one pair each, which is a list of pairs. -/
  | pairs
  /-- A key whose mapping is merged into the one around it. -/
  | merge
  /-- A key whose value stands for the mapping around it. -/
  | standIn
  | other
deriving DecidableEq, Repr

namespace Tag

/-- Whether a node of a tag is a collection, whatever it writes. -/
def isOfCollections : Tag → Bool
  | .sequence | .mapping | .set | .pairs => true
  | _ => false

/-- Whether nothing is made of a node of a tag. -/
def isOfKeys : Tag → Bool
  | .merge | .standIn | .other => true
  | _ => false

/-- What the names of the standard tags begin with. -/
def standardFront : String := "tag:yaml.org,2002:"

/-- The standard tags by the ends of their names. -/
def standard : List (String × Tag) :=
  [ ("null", .null), ("bool", .bool), ("int", .int), ("float", .float), ("binary", .octets),
    ("timestamp", .timestamp), ("str", .text), ("seq", .sequence), ("map", .mapping),
    ("set", .set), ("omap", .pairs), ("pairs", .pairs), ("merge", .merge), ("value", .standIn) ]

/-- The tag of a name. -/
def ofName (name : String) : Tag :=
  ((standard.find? fun entry => standardFront ++ entry.1 = name).map (·.2)).getD .other

/-- The handle of the standard tags and the handle of all others, where no directive says otherwise. -/
def usualHandles : List (String × String) := [("!!", standardFront), ("!", "!")]

/-- The octets of the percent escapes at the front of a list, and what follows them; none if an escape is not
complete. -/
def splitEscapes? : (fuel : Nat) → List Char → Option (List UInt8 × List Char)
  | fuel + 1, '%' :: rest => do
    let (octet, after) ← Text.readHexadecimal? 2 0 rest
    let (others, following) ← splitEscapes? fuel after
    return (octet.toUInt8 :: others, following)
  | _, rest => some ([], rest)

/-- The part of a tag at the front of a list, without its escapes, and what follows it; none if an escape is
not complete or if octets are no characters. -/
def splitPart? : (fuel : Nat) → List Char → Option (List Char × List Char)
  | 0, rest => some ([], rest)
  | _, [] => some ([], [])
  | fuel + 1, c :: rest =>
    if c = '%' then do
      let (escaped, after) ← splitEscapes? (rest.length + 1) (c :: rest)
      let characters ← String.fromUTF8? ⟨escaped.toArray⟩
      let (part, following) ← splitPart? fuel after
      return (characters.toList ++ part, following)
    else if isTagChar c then (splitPart? fuel rest).map fun split => (c :: split.1, split.2)
    else some ([], c :: rest)

/-- A part of a tag that is not empty, and what follows it. -/
def splitName? (characters : List Char) : Option (String × List Char) :=
  match splitPart? (characters.length + 1) characters with
  | some (c :: part, rest) => some (String.ofList (c :: part), rest)
  | _ => none

/-- The handle at the front of a list, and what follows it: a mark alone in front of a space, or a name
between two marks, which may be empty. -/
def splitHandle? : List Char → Option (String × List Char)
  | '!' :: ' ' :: rest => some ("!", ' ' :: rest)
  | '!' :: rest =>
    match rest.dropWhile isNameChar with
    | '!' :: after => some (String.ofList ('!' :: rest.takeWhile isNameChar ++ ['!']), after)
    | _ => none
  | _ => none

/-- The handle and the front of names at the front of a list that a directive writes, and what follows them. -/
def splitDirective? (characters : List Char) : Option (String × String × List Char) := do
  let (handle, afterHandle) ← splitHandle? (characters.dropWhile (· = ' '))
  if afterHandle.head? ≠ some ' ' then failure
  let (front, rest) ← splitName? (afterHandle.dropWhile (· = ' '))
  if atSpaceOrLineEnd rest then return (handle, front, rest) else failure

/-- A tag as it is written, after its first mark: its handle, if it has one, the rest of its name, and what
follows it. -/
def splitWritten? (characters : List Char) : Option (Option String × String × List Char) :=
  match characters with
  | '<' :: rest =>
    match splitName? rest with
    | some (name, '>' :: after) => some (none, name, after)
    | _ => none
  | _ =>
    if atBlank characters then some (none, "!", characters)
    else do
      let stretch := characters.takeWhile fun c => !(c = ' ' || isBreak c)
      let (handle, rest) ←
        if stretch.contains '!' then splitHandle? ('!' :: characters)
        else pure ("!", characters)
      let (name, after) ← splitName? rest
      return (some handle, name, after)

end Tag

end Switchboard.Yaml
