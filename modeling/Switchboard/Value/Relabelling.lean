import Switchboard.Value.Tree

/-!
# Other times and places

What comes into being at a time is told apart by it: a map by its origin, and a number that is none by
its mark. To relabel a graph is to say that all of it came into being at other times, or from other
sources.
-/

namespace Switchboard

/-- What to say for each moment and for each source. -/
structure Relabelling where
  moment : Nat → Nat
  source : Nat → Nat

/-- The mark with its moment and source renamed. -/
def Mark.relabel (labels : Relabelling) : Mark → Mark
  | .word => .word
  | .given moment => .given (labels.moment moment)
  | .read moment source number => .read (labels.moment moment) (labels.source source) number

/-- A scalar with another mark, if it is a number. -/
def Scalar.mapMark (change : Mark → Mark) : Scalar → Scalar
  | .float number => .float { number with mark := change number.mark }
  | other => other

/-- The scalar with its mark renamed. -/
def Scalar.relabel (labels : Relabelling) : Scalar → Scalar := Scalar.mapMark (Mark.relabel labels)

/-- The origin with its moment and source renamed. -/
def Origin.relabel (labels : Relabelling) : Origin → Origin
  | .alone => .alone
  | .made moment path => .made (labels.moment moment) (path.map (Scalar.relabel labels))
  | .read moment source number => .read (labels.moment moment) (labels.source source) number

mutual

/-- The tree with all its marks and origins renamed. -/
def Tree.relabel (labels : Relabelling) : Tree → Tree
  | .scalar content => .scalar (content.relabel labels)
  | .list items => .list (relabelItems labels items)
  | .pair first second => .pair (first.relabel labels) (second.relabel labels)
  | .set members => .set (members.map (Scalar.relabel labels))
  | .map origin branches => .map (origin.relabel labels) (relabelBranches labels branches)
  | .shelved origin => .shelved (origin.relabel labels)

/-- Renames the marks and origins of items. -/
def relabelItems (labels : Relabelling) : List Tree → List Tree
  | [] => []
  | item :: rest => item.relabel labels :: relabelItems labels rest

/-- Renames the marks and origins of entries. -/
def relabelBranches (labels : Relabelling) : Branches → Branches
  | [] => []
  | (key, tree) :: rest => (key.relabel labels, tree.relabel labels) :: relabelBranches labels rest

end

/-- The shelf with all its marks and origins renamed. -/
def Shelf.relabel (labels : Relabelling) (shelf : Shelf) : Shelf :=
  shelf.map fun entry => (entry.1.relabel labels, entry.2.relabel labels)

/-- The graph with all its marks and origins renamed. -/
def Graph.relabel (labels : Relabelling) (graph : Graph) : Graph :=
  { root := graph.root.relabel labels, shelf := graph.shelf.relabel labels }

end Switchboard
