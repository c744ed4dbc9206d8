import Switchboard.Entries
import Switchboard.Value.Key

/-!
# Values whose parts are shared

A map may stand in several places at once, and a write into it shows in all of them. So a value that is
written to is kept as a tree in which every map has an origin, when and where it came into being: maps of one
origin are one map. A collection that stands in several places of what a file writes, be it inside itself, is
kept apart on a shelf under its origin, and the tree names it there. Together the two are a graph.

`Graph.value` forgets the origins. A graph grown from a value in which nothing stands inside itself holds that
value (`value_ofValue`).
-/

namespace Switchboard

/-- When and where a collection came into being. -/
inductive Origin where
  /-- A map that nothing is written to. -/
  | alone
  /-- A map that was made at a moment, under a path. -/
  | made (moment : Nat) (path : List Scalar)
  /-- A collection that was read at a moment, by the number of its source and its number there. -/
  | read (moment source number : Nat)
deriving BEq

/-- A value with the origins of its maps, by which one is told from another like it. -/
inductive Tree where
  | scalar (content : Scalar)
  | list (items : List Tree)
  | pair (first second : Tree)
  | set (members : List Scalar)
  | map (origin : Origin) (branches : List (Scalar × Tree))
  /-- What the shelf has under an origin. -/
  | shelved (origin : Origin)

/-- There is a tree, the null. -/
instance : Inhabited Tree := ⟨.scalar .null⟩

/-- The entries of a map. -/
abbrev Branches := List (Scalar × Tree)

/-- The collections that stand in several places; none of them is named by the shelf alone. -/
abbrev Shelf := Entries Origin Tree

/-- A tree, and the maps that stand in more than one place of it. -/
structure Graph where
  root : Tree
  shelf : Shelf := []

/-- There is a graph, the null. -/
instance : Inhabited Graph := ⟨{ root := default }⟩

mutual

/-- The tree of a value. `name` gives each map its origin by its path, which goes on from the given one. -/
def Tree.grow (name : List Scalar → Origin) (path : List Scalar) : Value → Tree
  | .scalar content => .scalar content
  | .list items => .list (growItems name path 0 items)
  | .map entries => .map (name path) (growBranches name path entries)
  | .pair first second => .pair (Tree.grow name path first) (Tree.grow name path second)
  | .set members => .set members
  | .again _ => .list []

/-- The trees of the items of a list, counted on from an index. -/
def growItems (name : List Scalar → Origin) (path : List Scalar) (index : Nat) :
    List Value → List Tree
  | [] => []
  | item :: rest =>
    Tree.grow name (path ++ [.int index]) item :: growItems name path (index + 1) rest

/-- Grows entries, each from the path to its key. -/
def growBranches (name : List Scalar → Origin) (path : List Scalar) :
    List (Scalar × Value) → Branches
  | [] => []
  | (key, item) :: rest => (key, Tree.grow name (path ++ [key]) item) :: growBranches name path rest

end

mutual

/-- The value of a tree, given what stands for the shelf under each origin. -/
def Tree.valueWith (shelved : Origin → Value) : Tree → Value
  | .scalar content => .scalar content
  | .list items => .list (itemsWith shelved items)
  | .pair first second => .pair (first.valueWith shelved) (second.valueWith shelved)
  | .set members => .set members
  | .map _ branches => .map (branchesWith shelved branches)
  | .shelved origin => shelved origin

/-- The values of items, where the shelf is known. -/
def itemsWith (shelved : Origin → Value) : List Tree → List Value
  | [] => []
  | item :: rest => item.valueWith shelved :: itemsWith shelved rest

/-- The values of entries, where the shelf is known. -/
def branchesWith (shelved : Origin → Value) : Branches → List (Scalar × Value)
  | [] => []
  | (key, tree) :: rest => (key, tree.valueWith shelved) :: branchesWith shelved rest

end

mutual

/-- Whether no collection of a value is cut short because it stands inside itself. -/
def Value.isWhole : Value → Bool
  | .scalar _ | .set _ => true
  | .list items => areWhole items
  | .map entries => entriesAreWhole entries
  | .pair first second => first.isWhole && second.isWhole
  | .again _ => false

/-- Whether no item is a collection inside itself. -/
def areWhole : List Value → Bool
  | [] => true
  | item :: rest => item.isWhole && areWhole rest

/-- Whether no entry holds a collection inside itself. -/
def entriesAreWhole : List (Scalar × Value) → Bool
  | [] => true
  | (_, item) :: rest => item.isWhole && entriesAreWhole rest

end

mutual

/-- What is grown from a value has this value, whatever the shelf. -/
theorem valueWith_grow (shelved : Origin → Value) (name : List Scalar → Origin)
    (path : List Scalar) (value : Value) (whole : value.isWhole = true) :
    (Tree.grow name path value).valueWith shelved = value := by
  match value with
  | .scalar _ => simp [Tree.grow, Tree.valueWith]
  | .set _ => simp [Tree.grow, Tree.valueWith]
  | .list items =>
    simp only [Value.isWhole] at whole
    simp [Tree.grow, Tree.valueWith, itemsWith_grow shelved name path 0 items whole]
  | .map entries =>
    simp only [Value.isWhole] at whole
    simp [Tree.grow, Tree.valueWith, branchesWith_grow shelved name path entries whole]
  | .pair first second =>
    simp only [Value.isWhole, Bool.and_eq_true] at whole
    simp [Tree.grow, Tree.valueWith, valueWith_grow shelved name path first whole.1,
      valueWith_grow shelved name path second whole.2]
  | .again _ => simp [Value.isWhole] at whole

/-- What is grown from items has their values. -/
theorem itemsWith_grow (shelved : Origin → Value) (name : List Scalar → Origin)
    (path : List Scalar) (index : Nat) (items : List Value) (whole : areWhole items = true) :
    itemsWith shelved (growItems name path index items) = items := by
  match items with
  | [] => rfl
  | item :: rest =>
    simp only [areWhole, Bool.and_eq_true] at whole
    simp [growItems, itemsWith, valueWith_grow shelved name _ item whole.1,
      itemsWith_grow shelved name path (index + 1) rest whole.2]

/-- What is grown from entries has their values. -/
theorem branchesWith_grow (shelved : Origin → Value) (name : List Scalar → Origin)
    (path : List Scalar) (entries : List (Scalar × Value))
    (whole : entriesAreWhole entries = true) :
    branchesWith shelved (growBranches name path entries) = entries := by
  match entries with
  | [] => rfl
  | (key, item) :: rest =>
    simp only [entriesAreWhole, Bool.and_eq_true] at whole
    simp [growBranches, branchesWith, valueWith_grow shelved name _ item whole.1,
      branchesWith_grow shelved name path rest whole.2]

end

namespace Shelf

/-- What is under an origin. -/
def take (shelf : Shelf) (origin : Origin) : Tree :=
  (Entries.get? origin shelf).getD (.list [])

end Shelf

namespace Tree

/-- A tree as it is, be it on the shelf. -/
def opened (shelf : Shelf) : Tree → Tree
  | .shelved origin => shelf.take origin
  | other => other

/-- The kind of value that a tree holds; nothing on a shelf is a scalar. -/
def kind (shelf : Shelf) (tree : Tree) : Kind :=
  match tree.opened shelf with
  | .scalar content => content.kind
  | .list _ | .shelved _ => .list
  | .pair _ _ => .pair
  | .set _ => .set
  | .map _ _ => .map

/-- Whether the value of a tree counts as true. -/
def isTruthy (shelf : Shelf) (tree : Tree) : Bool :=
  match tree.opened shelf with
  | .scalar content => content.isTruthy
  | .list items => !items.isEmpty
  | .set members => !members.isEmpty
  | .map _ branches => !branches.isEmpty
  | .pair _ _ | .shelved _ => true

/-- The map that a tree is, if it is one. -/
def map? (shelf : Shelf) (tree : Tree) : Option (Origin × Branches) :=
  match tree.opened shelf with
  | .map origin branches => some (origin, branches)
  | _ => none

end Tree

namespace Shelf

/-- The value of what is under an origin, inside that of others. There is fuel for each of these once. -/
def value (shelf : Shelf) : (fuel : Nat) → (around : List Origin) → Origin → Value
  | 0, _, origin => .again ((shelf.take origin).kind shelf)
  | fuel + 1, around, origin =>
    if around.contains origin then .again ((shelf.take origin).kind shelf)
    else (shelf.take origin).valueWith (shelf.value fuel (origin :: around))

end Shelf

namespace Tree

/-- The value of a tree. -/
def value (shelf : Shelf) (tree : Tree) : Value :=
  tree.valueWith (shelf.value (shelf.length + 1) [])

/-- The tree at the end of a path of keys. -/
def at? (shelf : Shelf) : Tree → List Scalar → Option Tree
  | tree, [] => some tree
  | tree, key :: rest =>
    match tree.map? shelf with
    | some (_, branches) =>
      match Entries.get? key branches with
      | some below => below.at? shelf rest
      | none => none
    | none => none

end Tree

namespace Graph

/-- The value of a graph. -/
def value (graph : Graph) : Value := graph.root.value graph.shelf

/-- The kind of the value of a graph. -/
def kind (graph : Graph) : Kind := graph.root.kind graph.shelf

/-- Whether a graph counts as true. -/
def isTruthy (graph : Graph) : Bool := graph.root.isTruthy graph.shelf

/-- The graph at the end of a path of keys. -/
def at? (graph : Graph) (path : List Scalar) : Option Graph :=
  (graph.root.at? graph.shelf path).map fun root => { graph with root }

/-- The graph of a value that nothing is written to. -/
def ofValue (value : Value) : Graph := { root := Tree.grow (fun _ => .alone) [] value }

/-- The graph of a value has this value. -/
theorem value_ofValue (value : Value) (whole : value.isWhole = true) :
    (ofValue value).value = value :=
  valueWith_grow _ _ _ value whole

end Graph

end Switchboard
