import Switchboard.Value.Seating
import Switchboard.Value.Tree
import Switchboard.Yaml.Content
import Switchboard.Yaml.Merging

/-!
# Values of a document

The scalars and the collections of a document are made level by level. A collection comes into being when it is
first met and is filled when all that was met before it is; what stands in it is made then, in order. So the
fault that is found is the one met first, and a collection may stand inside itself. Keys of mappings must be
scalars.

`Assembly.graph` gives what was made its form: a collection that is named more than once goes to the shelf.
Collections, and the numbers that are none and have no word, are known by their nodes; whoever reads the
document says when and from where that was.
-/

namespace Switchboard.Yaml

/-- Something made: a scalar, or the collection of a node. -/
inductive Item where
  | scalar (content : Scalar)
  | collection (number : Nat)

/-- There is an item, the null. -/
instance : Inhabited Item := ⟨.scalar .null⟩

/-- What stands in a collection. -/
inductive Contents where
  | list (items : List Item)
  | pairs (items : List (Item × Item))
  | set (members : List Scalar)
  | map (entries : List (Scalar × Item))

/-- There are contents, those of an empty list. -/
instance : Inhabited Contents := ⟨.list []⟩

/-- What is in a collection, the keys of pairs among it. -/
def Contents.items : Contents → List Item
  | .list items => items
  | .pairs found => found.flatMap fun pair => [pair.1, pair.2]
  | .set _ => []
  | .map entries => entries.map (·.2)

/-- A document partly made. -/
structure Assembly where
  nodes : Array Node
  /-- How many keys asked for something to be merged at first. -/
  merges : Nat
  /-- What was made of each node. -/
  made : Array (Option Item)
  /-- The collections that are not filled yet, the last one first. -/
  waiting : List Nat := []
  /-- What stands in each collection that is filled. -/
  contents : Array Contents

/-- A step of making values, which may fail. -/
abbrev Assembling := StateT Assembly (Except Fault)

namespace Assembly

/-- The state before anything of a document is made. -/
def ofDocument (document : Document) : Assembly :=
  let size := document.nodes.size
  { nodes := document.nodes, merges := Document.mergeCount document.nodes
    made := Array.replicate size none, contents := Array.replicate size default }

/-- The text of a node: a mapping has that of the first value that stands in for it. A mapping that stands in
for itself has none. -/
def textOf (nodes : Array Node) : (fuel : Nat) → (number : Nat) → Except Fault (List Nat)
  | 0, _ => .error .tooDeep
  | fuel + 1, number =>
    match (Document.nodeAt nodes number).content with
    | .scalar points => .ok points
    | .sequence _ => .error .malformed
    | .mapping pairs =>
      match pairs.find? fun pair => (Document.nodeAt nodes pair.1).tag = .standIn with
      | some (_, value) => textOf nodes fuel value
      | none => .error .malformed

/-- A number that is none apart from the one that has a word of its own, with its mark. -/
def marked (mark : Mark) : Scalar → Scalar
  | .float found => .float (if found = freshNotANumber then .notANumberMarked mark else found)
  | other => other

/-- The scalar of a node. A day or a time is read from a text only. -/
def scalarOf (nodes : Array Node) (number : Nat) : Except Fault Scalar := do
  let node := Document.nodeAt nodes number
  if node.tag.isOfKeys then throw .malformed
  let points ← textOf nodes (nodes.size + 1) number
  match node.tag, node.content with
  | .timestamp, .mapping _ => throw (.scalar (.misuse (.notSearchableText .list)))
  | tag, _ => tag.read points

/-- What is made of a node, once. -/
def make (number : Nat) : Assembling Item := do
  let assembly ← get
  match assembly.made.getD number none with
  | some item => return item
  | none =>
    if (Document.nodeAt assembly.nodes number).tag.isOfCollections then
      let item := Item.collection number
      set { assembly with
        made := assembly.made.set! number item
        waiting := number :: assembly.waiting }
      return item
    else
      let content ← scalarOf assembly.nodes number
      let item := Item.scalar (marked (.read 0 0 number) content)
      set { assembly with made := assembly.made.set! number item }
      return item

/-- Makes some nodes, in order. -/
def makeEach : List Nat → Assembling (List Item)
  | [] => return []
  | number :: rest => do
    let item ← make number
    let others ← makeEach rest
    return item :: others

/-- The entries of a map after those made already. A key that is written twice keeps its place and takes the
later value. -/
def makeEntries : List (Nat × Nat) → List (Scalar × Item) → Assembling (List (Scalar × Item))
  | [], entries => return entries
  | (label, value) :: rest, entries => do
    match ← make label with
    | .collection _ => throw .malformed
    | .scalar key =>
      let item ← make value
      makeEntries rest (Entries.put key item entries)

/-- The entries of a mapping, once what it asks for is merged into it. -/
def entriesOf (number : Nat) : Assembling (List (Scalar × Item)) := do
  let assembly ← get
  match (Document.nodeAt assembly.nodes number).content with
  | .mapping _ =>
    let nodes ← Document.mergeInto assembly.merges number assembly.nodes
    set { assembly with nodes }
    makeEntries (Document.pairsOf nodes number) []
  | _ => throw .malformed

/-- The pairs of a sequence of mappings with one pair each, in which nothing is merged. -/
def makePairs : List Nat → Assembling (List (Item × Item))
  | [] => return []
  | number :: rest => do
    match (Document.nodeAt (← get).nodes number).content with
    | .mapping [(label, value)] =>
      let first ← make label
      let second ← make value
      let others ← makePairs rest
      return (first, second) :: others
    | _ => throw .malformed

/-- What stands in the collection of a node. -/
def contentsOf (number : Nat) : Assembling Contents := do
  let node := Document.nodeAt (← get).nodes number
  match node.tag, node.content with
  | .mapping, _ => return .map (← entriesOf number)
  | .set, _ => return .set (Scalar.seated ((← entriesOf number).map (·.1)))
  | .sequence, .sequence items => return .list (← makeEach items)
  | .pairs, .sequence items => return .pairs (← makePairs items)
  | _, _ => throw .malformed

/-- Fills collections in order. -/
def fillEach : List Nat → Assembling Unit
  | [] => return
  | number :: rest => do
    let contents ← contentsOf number
    modify fun assembly => { assembly with contents := assembly.contents.set! number contents }
    fillEach rest

/-- Fills the collections that wait, and then those that came into being meanwhile. Each is filled once, so
there is fuel enough when there is as much as there are nodes. -/
def fillLevels : (fuel : Nat) → Assembling Unit
  | 0 => return
  | fuel + 1 => do
    let waiting := (← get).waiting.reverse
    if waiting.isEmpty then return
    modify fun assembly => { assembly with waiting := [] }
    fillEach waiting
    fillLevels fuel

/-- Makes a document. -/
def makeDocument (document : Document) : Assembling Item := do
  let root ← make document.root
  fillLevels (document.nodes.size + 1)
  return root

/-- How often each collection is named, the document itself being named from outside. -/
def namings (root : Item) (contents : Array Contents) : Array Nat :=
  let count (counts : Array Nat) : Item → Array Nat
    | .scalar _ => counts
    | .collection number => counts.modify number (· + 1)
  contents.foldl (fun counts found => found.items.foldl count counts)
    (count (Array.replicate contents.size 0) root)

/-- The tree of a collection, given those of its items. -/
def treeOf (origin : Origin) (below : Item → Tree) : Contents → Tree
  | .list items => .list (items.map below)
  | .pairs found => .list (found.map fun pair => .pair (below pair.1) (below pair.2))
  | .set members => .set members
  | .map entries => .map origin (entries.map fun entry => (entry.1, below entry.2))

/-- The tree of an item, in which collections that are shared are only named. The others stand in one another
at most as often as there are nodes. -/
def treeOfItem (contents : Array Contents) (isShared : Nat → Bool) (name : Nat → Origin) :
    (fuel : Nat) → Item → Tree
  | _, .scalar content => .scalar content
  | 0, .collection number => .shelved (name number)
  | fuel + 1, .collection number =>
    if isShared number then .shelved (name number)
    else treeOf (name number) (treeOfItem contents isShared name fuel) (contents.getD number default)

/-- What was made as a graph; `name` gives each collection its origin. -/
def graph (name : Nat → Origin) (root : Item) (contents : Array Contents) : Graph :=
  let counts := namings root contents
  let isShared (number : Nat) : Bool := 1 < counts.getD number 0
  let below := treeOfItem contents isShared name contents.size
  { root := below root
    shelf := ((List.range contents.size).filter isShared).map fun number =>
      (name number, treeOf (name number) below (contents.getD number default)) }

end Assembly

/-- The graph of a document, or the fault met first in making it. -/
def Document.toGraph (document : Document) : Except Fault Graph := do
  let (root, assembly) ← (Assembly.makeDocument document).run (.ofDocument document)
  return Assembly.graph (.read 0 0) root assembly.contents

/-- The graph that a whole text writes; a text without a document is null. The whole document is read before
any of its values is made. -/
def read (source : Source) : Except Fault Graph := do
  match ← Document.ofTokens? (Token.scan source) with
  | some document => document.toGraph
  | none => return default

end Switchboard.Yaml
