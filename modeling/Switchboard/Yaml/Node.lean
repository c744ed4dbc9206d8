import Switchboard.Yaml.Form
import Switchboard.Yaml.Token

/-!
# Nodes of a YAML document

A document is a table of nodes that name one another by their numbers: scalars, sequences and mappings, each
with its tag. An alias is the number of the node that was given its name before, which may be a collection
around the alias; a name is given once. Where a node may be left out, the empty plain scalar takes its place.

Tokens are looked at one at a time: what is wrong with a token is found before what comes after it is met.
-/

namespace Switchboard.Yaml

/-- What a node holds: a text, or the numbers of other nodes. -/
inductive NodeContent where
  /-- A text by its code points. -/
  | scalar (points : List Nat)
  | sequence (items : List Nat)
  | mapping (pairs : List (Nat × Nat))

/-- A node of a document. -/
structure Node where
  tag : Tag
  content : NodeContent

/-- There is a node, the empty one. -/
instance : Inhabited Node := ⟨⟨.null, .scalar []⟩⟩

/-- The nodes of a document, and the number of the one that is the document. -/
structure Document where
  nodes : Array Node
  root : Nat

namespace Document

/-- The tokens that are left, and what was read before them. -/
structure Reading where
  tokens : List Token
  /-- What the names of the tags of each handle begin with. -/
  handles : List (String × String)
  /-- The names that are given, the last one first. -/
  named : List (String × Nat) := []
  nodes : Array Node := #[]

/-- What may stand in front of a node: its name, and its tag as it is written. -/
structure Properties where
  anchor : Option String := none
  tag : Option String := none

/-- The name that a tag is written for. -/
def tagName (handles : List (String × String)) (handle : Option String) (name : String) :
    Except Fault String :=
  match handle with
  | none => .ok name
  | some known =>
    match handles.lookup known with
    | some front => .ok (front ++ name)
    | none => .error .malformed

/-- The properties in front of a node, in either order, and the tokens after them. A token after a tag that
comes first is looked at before the tag is. -/
def splitProperties (handles : List (String × String)) :
    List Token → Except Fault (Properties × List Token)
  | .anchor label :: .tag handle name :: rest => do
    return ({ anchor := some label, tag := some (← tagName handles handle name) }, rest)
  | .tag handle name :: .anchor label :: rest => do
    return ({ anchor := some label, tag := some (← tagName handles handle name) }, rest)
  | .anchor label :: rest => .ok ({ anchor := some label }, rest)
  | .tag handle name :: rest =>
    match rest with
    | .broken fault :: _ => .error fault
    | _ => do return ({ tag := some (← tagName handles handle name) }, rest)
  | rest => .ok ({}, rest)

/-- The tag of a scalar. -/
def scalarTag (tag : Option String) (plain : Bool) (points : List Nat) : Tag :=
  match tag with
  | none => if plain then Tag.ofPlain points else .text
  | some "!" => Tag.ofPlain points
  | some name => Tag.ofName name

/-- The tag of a collection, which has one of its own. -/
def collectionTag (own : Tag) : Option String → Tag
  | none | some "!" => own
  | some name => Tag.ofName name

/-- The fault that the next token amounts to where it is not expected. -/
def unexpected : List Token → Fault
  | .broken fault :: _ => fault
  | _ => .malformed

/-- A new node. -/
def add (node : Node) (reading : Reading) : Nat × Reading :=
  (reading.nodes.size, { reading with nodes := reading.nodes.push node })

/-- A new node with a name, unless the name is taken. -/
def addNamed (anchor : Option String) (node : Node) (reading : Reading) :
    Except Fault (Nat × Reading) :=
  match anchor with
  | none => .ok (add node reading)
  | some label =>
    if (reading.named.lookup label).isSome then .error .malformed
    else
      let (number, after) := add node reading
      .ok (number, { after with named := (label, number) :: after.named })

/-- Fills a collection. -/
def fill (number : Nat) (content : NodeContent) (reading : Reading) : Reading :=
  { reading with nodes := reading.nodes.modify number fun node => { node with content } }

/-- A new node that stands for one that is left out. -/
def addEmpty (reading : Reading) : Nat × Reading := add default reading

/-- Whether the next token is one of those before which a node may be left out. -/
def isNext (tokens : List Token) (reading : Reading) : Bool :=
  reading.tokens.head?.any fun token => tokens.contains token

/-- Passes over a token. -/
def skip (reading : Reading) : Reading :=
  { reading with tokens := reading.tokens.tail }

/-- The empty scalar that properties may stand in front of; without them a node is missing. -/
def readEmpty (properties : Properties) (reading : Reading) : Except Fault (Nat × Reading) := do
  match reading.tokens with
  | .broken fault :: _ => throw fault
  | _ =>
    if properties.anchor.isNone && properties.tag.isNone then throw .malformed
    addNamed properties.anchor ⟨scalarTag properties.tag true [], .scalar []⟩ reading

mutual

/-- A node at the front of the tokens. Blocks are read where `block` allows them; a sequence without a block of
its own is read where `indentless` allows it. -/
def read (block indentless : Bool) : (fuel : Nat) → Reading → Except Fault (Nat × Reading)
  | 0, _ => .error .malformed
  | fuel + 1, reading =>
    match reading.tokens with
    | .alias label :: rest =>
      match reading.named.lookup label with
      | some number => .ok (number, { reading with tokens := rest })
      | none => .error .malformed
    | tokens => do
      let (properties, body) ← splitProperties reading.handles tokens
      let ahead := { reading with tokens := body }
      let sequence : Node := ⟨collectionTag .sequence properties.tag, .sequence []⟩
      let mapping : Node := ⟨collectionTag .mapping properties.tag, .mapping []⟩
      match body with
      | .blockEntry :: _ =>
        if indentless then
          let (number, inner) ← addNamed properties.anchor sequence ahead
          let (items, after) ← readIndentless fuel inner
          return (number, fill number (.sequence items) after)
        else readEmpty properties ahead
      | .scalar points plain :: _ =>
        addNamed properties.anchor ⟨scalarTag properties.tag plain points, .scalar points⟩
          (skip ahead)
      | .sequenceStart :: _ =>
        let (number, inner) ← addNamed properties.anchor sequence (skip ahead)
        let (items, after) ← readItems true fuel inner
        return (number, fill number (.sequence items) after)
      | .mappingStart :: _ =>
        let (number, inner) ← addNamed properties.anchor mapping (skip ahead)
        let (pairs, after) ← readPairs true fuel inner
        return (number, fill number (.mapping pairs) after)
      | .blockSequenceStart :: _ =>
        if block then
          let (number, inner) ← addNamed properties.anchor sequence (skip ahead)
          let (items, after) ← readBlockItems fuel inner
          return (number, fill number (.sequence items) after)
        else readEmpty properties ahead
      | .blockMappingStart :: _ =>
        if block then
          let (number, inner) ← addNamed properties.anchor mapping (skip ahead)
          let (pairs, after) ← readBlockPairs fuel inner
          return (number, fill number (.mapping pairs) after)
        else readEmpty properties ahead
      | _ => readEmpty properties ahead

/-- A node that may be left out in front of some tokens. -/
def readOptional (block indentless : Bool) (ends : List Token) : (fuel : Nat) → Reading →
    Except Fault (Nat × Reading)
  | 0, _ => .error .malformed
  | fuel + 1, reading =>
    if isNext ends reading then .ok (addEmpty reading) else read block indentless fuel reading

/-- The items of a block sequence up to its end. -/
def readBlockItems : (fuel : Nat) → Reading → Except Fault (List Nat × Reading)
  | 0, _ => .error .malformed
  | fuel + 1, reading =>
    match reading.tokens with
    | .blockEntry :: _ => do
      let (item, after) ← readOptional true false [.blockEntry, .blockEnd] fuel (skip reading)
      let (items, final) ← readBlockItems fuel after
      return (item :: items, final)
    | .blockEnd :: _ => .ok ([], skip reading)
    | tokens => .error (unexpected tokens)

/-- The items of a sequence that stands at the column of its key. -/
def readIndentless : (fuel : Nat) → Reading → Except Fault (List Nat × Reading)
  | 0, _ => .error .malformed
  | fuel + 1, reading =>
    match reading.tokens with
    | .blockEntry :: _ => do
      let (item, after) ←
        readOptional true false [.blockEntry, .key, .value, .blockEnd] fuel (skip reading)
      let (items, final) ← readIndentless fuel after
      return (item :: items, final)
    | _ => .ok ([], reading)

/-- The pairs of a block mapping up to its end. -/
def readBlockPairs : (fuel : Nat) → Reading → Except Fault (List (Nat × Nat) × Reading)
  | 0, _ => .error .malformed
  | fuel + 1, reading =>
    match reading.tokens with
    | .key :: _ => do
      let ends := [Token.key, .value, .blockEnd]
      let (label, afterKey) ← readOptional true true ends fuel (skip reading)
      let (item, after) ←
        if isNext [.value] afterKey then readOptional true true ends fuel (skip afterKey)
        else pure (addEmpty afterKey)
      let (pairs, final) ← readBlockPairs fuel after
      return ((label, item) :: pairs, final)
    | .blockEnd :: _ => .ok ([], skip reading)
    | tokens => .error (unexpected tokens)

/-- A key that is marked and its value in brackets that a token ends. -/
def readMarkedPair (ending : Token) : (fuel : Nat) → Reading →
    Except Fault ((Nat × Nat) × Reading)
  | 0, _ => .error .malformed
  | fuel + 1, reading => do
    let ends := [Token.flowEntry, ending]
    let (label, afterKey) ← readOptional false false (.value :: ends) fuel (skip reading)
    let (item, after) ←
      if isNext [.value] afterKey then readOptional false false ends fuel (skip afterKey)
      else pure (addEmpty afterKey)
    return ((label, item), after)

/-- The items of a sequence in brackets up to its end. An item may be a single pair. -/
def readItems (first : Bool) : (fuel : Nat) → Reading → Except Fault (List Nat × Reading)
  | 0, _ => .error .malformed
  | fuel + 1, reading =>
    if isNext [.sequenceEnd] reading then .ok ([], skip reading)
    else if !first && !isNext [.flowEntry] reading then .error (unexpected reading.tokens)
    else
      let inner := if first then reading else skip reading
      if isNext [.key] inner then do
        let (number, within) := add ⟨.mapping, .mapping []⟩ inner
        let (pair, after) ← readMarkedPair .sequenceEnd fuel within
        let (items, final) ← readItems false fuel (fill number (.mapping [pair]) after)
        return (number :: items, final)
      else if isNext [.sequenceEnd] inner then .ok ([], skip inner)
      else do
        let (item, after) ← read false false fuel inner
        let (items, final) ← readItems false fuel after
        return (item :: items, final)

/-- The pairs of a mapping in brackets up to its end. A key without a colon has the empty scalar as its
value. -/
def readPairs (first : Bool) : (fuel : Nat) → Reading → Except Fault (List (Nat × Nat) × Reading)
  | 0, _ => .error .malformed
  | fuel + 1, reading =>
    if isNext [.mappingEnd] reading then .ok ([], skip reading)
    else if !first && !isNext [.flowEntry] reading then .error (unexpected reading.tokens)
    else
      let inner := if first then reading else skip reading
      if isNext [.key] inner then do
        let (pair, after) ← readMarkedPair .mappingEnd fuel inner
        let (pairs, final) ← readPairs false fuel after
        return (pair :: pairs, final)
      else if isNext [.mappingEnd] inner then .ok ([], skip inner)
      else do
        let (label, afterKey) ← read false false fuel inner
        let (item, after) := addEmpty afterKey
        let (pairs, final) ← readPairs false fuel after
        return ((label, item) :: pairs, final)

end

/-- What the directives in front of a document say: whether the version was given, and the handles of tags. -/
structure Directives where
  versionSeen : Bool := false
  handles : List (String × String) := []

/-- Takes the directives in front of a document. The version is given once at most, and its first part is one;
a handle is given once at most. -/
def takeDirectives (known : Directives) : List Token → Except Fault (Directives × List Token)
  | .version major :: rest =>
    if known.versionSeen || major ≠ 1 then .error .malformed
    else takeDirectives { known with versionSeen := true } rest
  | .handle name front :: rest =>
    if (known.handles.lookup name).isSome then .error .malformed
    else takeDirectives { known with handles := (name, front) :: known.handles } rest
  | .directive :: rest => takeDirectives known rest
  | rest => .ok (known, rest)

/-- Whether a token belongs to the bounds of documents and not to their content. -/
def isBoundary : Token → Bool
  | .version _ | .handle _ _ | .directive | .documentStart | .documentEnd => true
  | _ => false

/-- Enough fuel for reading a document: every step that takes no token leads to one that does. -/
def fuelFor (tokens : List Token) : Nat := 5 * tokens.length + 5

/-- What is to be read after the mark that starts a document, which directives may precede. -/
def afterStart (tokens : List Token) : Except Fault Reading := do
  match ← takeDirectives {} tokens with
  | (known, .documentStart :: rest) =>
    return { tokens := rest, handles := known.handles ++ Tag.usualHandles }
  | (_, other) => throw (unexpected other)

/-- The node of a document whose start is marked; left out if the document ends at once. -/
def readMarked (tokens : List Token) : Except Fault (Nat × Reading) := do
  let reading ← afterStart tokens
  if reading.tokens.head?.all isBoundary then return addEmpty reading
  else read true false (fuelFor reading.tokens) reading

/-- Refuses whatever follows a document besides marks of its end; a second document is refused as soon as its
start is met. -/
def finish (tokens : List Token) : Except Fault Unit :=
  match tokens.dropWhile (· = .documentEnd) with
  | [] => .ok ()
  | rest => (afterStart rest).bind fun _ => .error .malformed

/-- The only document among the tokens; none if there is no document. Only a document whose start is marked may
have directives. -/
def ofTokens? (tokens : List Token) : Except Fault (Option Document) := do
  match tokens with
  | [] => return none
  | first :: _ =>
    let (root, after) ←
      if isBoundary first && first ≠ .documentEnd then readMarked tokens
      else read true false (fuelFor tokens) { tokens, handles := Tag.usualHandles }
    finish after.tokens
    return some ⟨after.nodes, root⟩

end Document

end Switchboard.Yaml
