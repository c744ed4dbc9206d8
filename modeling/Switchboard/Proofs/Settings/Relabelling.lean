import Switchboard.Proofs.Settings.Naming
import Switchboard.Value.Relabelling

/-!
# Graphs that came into being at other times

Relabelling changes no more than the marks of numbers that are none and the origins of maps. As long
as it brings no two of them together, everything that is found in a graph is found in the relabelled
one, relabelled (`Tree.at?_relabel`), and the one holds the value of the other apart from the marks
(`Graph.value_relabel`).
-/

namespace Switchboard

namespace Relabelling

/-- Whether only the moments are others, and no two of them become one. -/
structure IsFaithful (labels : Relabelling) : Prop where
  moment : ∀ {first second}, labels.moment first = labels.moment second → first = second
  source : ∀ number, labels.source number = number

/-- One relabelling after another. -/
def andThen (labels next : Relabelling) : Relabelling where
  moment time := next.moment (labels.moment time)
  source number := next.source (labels.source number)

end Relabelling

variable {labels next : Relabelling}

namespace Mark

/-- To rename a mark twice is to rename it once by both. -/
theorem relabel_relabel (mark : Mark) :
    (mark.relabel labels).relabel next = mark.relabel (labels.andThen next) := by
  cases mark <;> rfl

/-- Marks that a faithful renaming makes one are one. -/
theorem relabel_inj (faithful : labels.IsFaithful) {mark other : Mark} :
    mark.relabel labels = other.relabel labels ↔ mark = other := by
  refine ⟨fun same => ?_, fun same => by rw [same]⟩
  cases mark <;> cases other <;> simp only [relabel, reduceCtorEq, Mark.given.injEq,
    Mark.read.injEq] at same ⊢
  case given.given => exact faithful.moment same
  case read.read =>
    rw [faithful.source, faithful.source] at same
    exact ⟨faithful.moment same.1, same.2⟩

end Mark

namespace Scalar

/-- To change a mark twice is to change it once by both. -/
theorem mapMark_mapMark (change other : Mark → Mark) (content : Scalar) :
    (content.mapMark change).mapMark other = content.mapMark fun mark => other (change mark) := by
  cases content <;> rfl

/-- To rename the mark of a scalar twice is to rename it once by both. -/
theorem relabel_relabel (content : Scalar) :
    (content.relabel labels).relabel next = content.relabel (labels.andThen next) := by
  simp only [relabel, mapMark_mapMark, Mark.relabel_relabel]

/-- Of what kind a scalar is does not depend on marks. -/
@[simp] theorem kind_relabel (content : Scalar) : (content.relabel labels).kind = content.kind := by
  cases content <;> rfl

/-- Whether a scalar counts as true does not depend on marks. -/
@[simp] theorem isTruthy_relabel (content : Scalar) :
    (content.relabel labels).isTruthy = content.isTruthy := by
  cases content <;> rfl

/-- Only what makes a number that is none the key that it is depends on when that came into being. -/
theorem identity_relabel (content : Scalar) : (content.relabel labels).identity =
    match content.identity with
    | .notANumber mark => .notANumber (mark.relabel labels)
    | other => other := by
  cases content with
  | float number =>
    let other : Binary64 := { number with mark := number.mark.relabel labels }
    have infinite : other.isInfinite = number.isInfinite := rfl
    have negative : other.isNegative = number.isNegative := rfl
    have fraction : other.fraction? = number.fraction? := rfl
    simp only [relabel, mapMark, identity, infinite, negative, fraction, other]
    cases number.isInfinite with
    | true => rfl
    | false => cases number.fraction? <;> rfl
  | moment time => cases ahead : time.offset.isSome <;> simp [relabel, mapMark, identity, ahead]
  | bool answer => rfl
  | _ => rfl

/-- Relabelling neither brings keys together nor takes them apart. -/
theorem relabel_beq (faithful : labels.IsFaithful) (content other : Scalar) :
    (content.relabel labels == other.relabel labels) = (content == other) := by
  simp only [BEq.beq, identity_relabel]
  refine decide_eq_decide.mpr ?_
  cases content.identity <;> cases other.identity <;> simp [Mark.relabel_inj faithful]

/-- Paths are the same where they are after a faithful renaming. -/
theorem map_relabel_beq (faithful : labels.IsFaithful) (path other : List Scalar) :
    (path.map (relabel labels) == other.map (relabel labels)) = (path == other) := by
  induction path generalizing other with
  | nil => cases other <;> rfl
  | cons key rest ih => cases other <;> simp [relabel_beq faithful, ih]

end Scalar

namespace Origin

/-- To rename an origin twice is to rename it once by both. -/
theorem relabel_relabel (origin : Origin) :
    (origin.relabel labels).relabel next = origin.relabel (labels.andThen next) := by
  cases origin with
  | made moment path => simp [relabel, Scalar.relabel_relabel, Relabelling.andThen]
  | _ => rfl

/-- Origins are the same where they are after a faithful renaming. -/
theorem relabel_beq (faithful : labels.IsFaithful) (origin other : Origin) :
    (origin.relabel labels == other.relabel labels) = (origin == other) := by
  have moments (first second : Nat) :
      (labels.moment first == labels.moment second) = (first == second) := by
    rw [Bool.eq_iff_iff, beq_iff_eq, beq_iff_eq]
    exact ⟨faithful.moment, congrArg labels.moment⟩
  have sources := faithful.source
  have paths := Scalar.map_relabel_beq faithful
  cases origin <;> cases other <;> simp only [BEq.beq, instBEqOrigin.beq, relabel] at * <;>
    simp_all

end Origin

/-! Trees, part by part. -/

/-- Items are renamed one by one. -/
theorem relabelItems_eq_map (labels : Relabelling) (items : List Tree) :
    relabelItems labels items = items.map (Tree.relabel labels) := by
  induction items with
  | nil => rfl
  | cons item rest ih => simp [relabelItems, ih]

/-- Entries are renamed one by one. -/
theorem relabelBranches_eq_map (labels : Relabelling) (branches : Branches) :
    relabelBranches labels branches =
      branches.map fun branch => (branch.1.relabel labels, branch.2.relabel labels) := by
  induction branches with
  | nil => rfl
  | cons branch rest ih => simp [relabelBranches, ih]

/-- To rename a tree twice is to rename it once by both. -/
theorem Tree.relabel_relabel (tree : Tree) :
    (tree.relabel labels).relabel next = tree.relabel (labels.andThen next) := by
  induction tree using Tree.induct with
  | scalar content => simp [relabel, Scalar.relabel_relabel]
  | set members => simp [relabel, Scalar.relabel_relabel]
  | shelved origin => simp [relabel, Origin.relabel_relabel]
  | pair first second firstSame secondSame => simp [relabel, firstSame, secondSame]
  | list items ih => simpa [relabel, relabelItems_eq_map] using ih
  | map origin branches ih =>
    simp only [relabel, relabelBranches_eq_map, Origin.relabel_relabel, List.map_map]
    congr 1
    exact List.map_congr_left fun branch member => by simp [Scalar.relabel_relabel, ih branch member]

/-- To rename a graph twice is to rename it once by both. -/
theorem Graph.relabel_relabel (graph : Graph) :
    (graph.relabel labels).relabel next = graph.relabel (labels.andThen next) := by
  simp only [relabel, Shelf.relabel, Tree.relabel_relabel, List.map_map]
  congr 1
  exact List.map_congr_left fun entry _ => by simp [Origin.relabel_relabel, Tree.relabel_relabel]

/-- What a relabelled tree names the tree named, relabelled. -/
theorem Tree.mem_names_relabel {tree : Tree} {named : Origin}
    (isNamed : named ∈ (tree.relabel labels).names) :
    ∃ old ∈ tree.names, old.relabel labels = named := by
  induction tree using Tree.induct with
  | scalar _ => simp [relabel, names] at isNamed
  | set _ => simp [relabel, names] at isNamed
  | shelved origin =>
    obtain rfl : named = origin.relabel labels := by simpa [relabel, names] using isNamed
    exact ⟨origin, List.mem_singleton_self origin, rfl⟩
  | list items ih =>
    rw [relabel, relabelItems_eq_map] at isNamed
    obtain ⟨_, among, inItem⟩ := mem_itemNames.mp isNamed
    obtain ⟨item, isItem, rfl⟩ := List.mem_map.mp among
    obtain ⟨old, known, same⟩ := ih item isItem inItem
    exact ⟨old, mem_itemNames.mpr ⟨item, isItem, known⟩, same⟩
  | pair first second ofFirst ofSecond =>
    rcases List.mem_append.mp isNamed with inFirst | inSecond
    · obtain ⟨old, known, same⟩ := ofFirst inFirst
      exact ⟨old, List.mem_append_left _ known, same⟩
    · obtain ⟨old, known, same⟩ := ofSecond inSecond
      exact ⟨old, List.mem_append_right _ known, same⟩
  | map origin branches ih =>
    rw [relabel, relabelBranches_eq_map] at isNamed
    obtain ⟨_, among, inBranch⟩ := mem_branchNames.mp isNamed
    obtain ⟨branch, isBranch, rfl⟩ := List.mem_map.mp among
    obtain ⟨old, known, same⟩ := ih branch isBranch inBranch
    exact ⟨old, mem_branchNames.mpr ⟨branch, isBranch, known⟩, same⟩

/-- The maps of a relabelled tree have the origins of its maps, relabelled. -/
theorem Tree.mem_maps_relabel {tree : Tree} {found : Origin × Branches}
    (member : found ∈ (tree.relabel labels).maps) :
    ∃ old ∈ tree.maps, old.1.relabel labels = found.1 := by
  induction tree using Tree.induct with
  | scalar _ => simp [relabel, maps] at member
  | set _ => simp [relabel, maps] at member
  | shelved _ => simp [relabel, maps] at member
  | list items ih =>
    rw [relabel, relabelItems_eq_map] at member
    obtain ⟨_, among, inItem⟩ := mem_itemMaps.mp member
    obtain ⟨item, isItem, rfl⟩ := List.mem_map.mp among
    obtain ⟨old, known, same⟩ := ih item isItem inItem
    exact ⟨old, mem_itemMaps.mpr ⟨item, isItem, known⟩, same⟩
  | pair first second ofFirst ofSecond =>
    rcases List.mem_append.mp member with inFirst | inSecond
    · obtain ⟨old, known, same⟩ := ofFirst inFirst
      exact ⟨old, List.mem_append_left _ known, same⟩
    · obtain ⟨old, known, same⟩ := ofSecond inSecond
      exact ⟨old, List.mem_append_right _ known, same⟩
  | map origin branches ih =>
    rcases List.mem_cons.mp member with rfl | below
    · exact ⟨(origin, branches), List.mem_cons_self, rfl⟩
    · rw [relabelBranches_eq_map] at below
      obtain ⟨_, among, inBranch⟩ := mem_branchMaps.mp below
      obtain ⟨branch, isBranch, rfl⟩ := List.mem_map.mp among
      obtain ⟨old, known, same⟩ := ih branch isBranch inBranch
      exact ⟨old, List.mem_cons_of_mem _ (mem_branchMaps.mpr ⟨branch, isBranch, known⟩), same⟩

/-! What is found in relabelled graphs. -/

/-- Under a renamed key is what was under the key, renamed. -/
theorem get?_relabelBranches (faithful : labels.IsFaithful) (key : Scalar) (branches : Branches) :
    Entries.get? (key.relabel labels) (relabelBranches labels branches) =
      (Entries.get? key branches).map (Tree.relabel labels) := by
  rw [relabelBranches_eq_map, Entries.get?_map (Scalar.relabel_beq faithful)]

/-- Under a renamed origin of the shelf is what was there, renamed. -/
theorem Shelf.take_relabel (faithful : labels.IsFaithful) (shelf : Shelf) (origin : Origin) :
    (shelf.relabel labels).take (origin.relabel labels) = (shelf.take origin).relabel labels := by
  rw [take, take, Shelf.relabel, Entries.get?_map (Origin.relabel_beq faithful)]
  cases Entries.get? origin shelf <;> rfl

namespace Tree

variable (faithful : labels.IsFaithful) (shelf : Shelf) (tree : Tree)
include faithful

/-- What is shown of a renamed tree is what was shown, renamed. -/
theorem opened_relabel :
    (tree.relabel labels).opened (shelf.relabel labels) = (tree.opened shelf).relabel labels := by
  cases tree with
  | shelved origin => exact Shelf.take_relabel faithful shelf origin
  | _ => rfl

/-- Of what kind a tree is does not depend on names. -/
theorem kind_relabel : (tree.relabel labels).kind (shelf.relabel labels) = tree.kind shelf := by
  rw [kind, kind, opened_relabel faithful]
  cases tree.opened shelf <;> simp [relabel]

/-- Whether a tree counts as true does not depend on names. -/
theorem isTruthy_relabel :
    (tree.relabel labels).isTruthy (shelf.relabel labels) = tree.isTruthy shelf := by
  rw [isTruthy, isTruthy, opened_relabel faithful]
  cases tree.opened shelf <;> simp [relabel, relabelItems_eq_map, relabelBranches_eq_map]

/-- A renamed tree is the map that it was, renamed. -/
theorem map?_relabel : (tree.relabel labels).map? (shelf.relabel labels) =
    (tree.map? shelf).map fun found => (found.1.relabel labels, relabelBranches labels found.2) := by
  rw [map?, map?, opened_relabel faithful]
  cases tree.opened shelf <;> rfl

/-- At the end of a relabelled path stands what stood at the end of the path, relabelled. -/
theorem at?_relabel (path : List Scalar) :
    (tree.relabel labels).at? (shelf.relabel labels) (path.map (Scalar.relabel labels)) =
      (tree.at? shelf path).map (Tree.relabel labels) := by
  induction path generalizing tree with
  | nil => simp [at?]
  | cons key rest ih =>
    rw [List.map_cons, at?, at?, map?_relabel faithful]
    cases tree.map? shelf with
    | none => rfl
    | some found =>
      simp only [Option.map_some, get?_relabelBranches faithful]
      cases Entries.get? key found.2 with
      | none => rfl
      | some below => exact ih below

end Tree

/-- Whether a graph counts as true does not depend on names. -/
theorem Graph.isTruthy_relabel (faithful : labels.IsFaithful) (graph : Graph) :
    (graph.relabel labels).isTruthy = graph.isTruthy :=
  graph.root.isTruthy_relabel faithful graph.shelf

/-! The values of relabelled graphs. -/

namespace Value

mutual

/-- A value with other marks for its numbers that are none, those that are keys included. -/
def mapMarks (change : Mark → Mark) : Value → Value
  | .scalar content => .scalar (content.mapMark change)
  | .list items => .list (mapItemMarks change items)
  | .map entries => .map (mapEntryMarks change entries)
  | .pair first second => .pair (first.mapMarks change) (second.mapMarks change)
  | .set members => .set (members.map (Scalar.mapMark change))
  | .again kind => .again kind

/-- Changes the marks in items. -/
def mapItemMarks (change : Mark → Mark) : List Value → List Value
  | [] => []
  | item :: rest => item.mapMarks change :: mapItemMarks change rest

/-- Changes the marks in entries, those of keys included. -/
def mapEntryMarks (change : Mark → Mark) : List (Scalar × Value) → List (Scalar × Value)
  | [] => []
  | (key, item) :: rest => (key.mapMark change, item.mapMarks change) :: mapEntryMarks change rest

end

/-- The marks of items are changed one by one. -/
theorem mapItemMarks_eq_map (change : Mark → Mark) (items : List Value) :
    mapItemMarks change items = items.map (mapMarks change) := by
  induction items with
  | nil => rfl
  | cons item rest ih => simp [mapItemMarks, ih]

/-- The marks of entries are changed one by one. -/
theorem mapEntryMarks_eq_map (change : Mark → Mark) (entries : List (Scalar × Value)) :
    mapEntryMarks change entries =
      entries.map fun entry => (entry.1.mapMark change, entry.2.mapMarks change) := by
  induction entries with
  | nil => rfl
  | cons entry rest ih => simp [mapEntryMarks, ih]

end Value

/-- A renamed tree has the value it had, with the marks renamed, if what it is read with has. -/
theorem Tree.valueWith_relabel {shelved other : Origin → Value}
    (same : ∀ origin, other (origin.relabel labels) =
      (shelved origin).mapMarks (Mark.relabel labels)) (tree : Tree) :
    (tree.relabel labels).valueWith other =
      (tree.valueWith shelved).mapMarks (Mark.relabel labels) := by
  induction tree using Tree.induct with
  | scalar _ => rfl
  | set _ => rfl
  | shelved origin => exact same origin
  | list items ih =>
    simpa [relabel, valueWith, Value.mapMarks, relabelItems_eq_map, itemsWith_eq_map,
      Value.mapItemMarks_eq_map] using ih
  | pair first second firstSame secondSame =>
    simp only [relabel, valueWith, Value.mapMarks, firstSame, secondSame]
  | map origin branches ih =>
    simp only [relabel, valueWith, Value.mapMarks, relabelBranches_eq_map, branchesWith_eq_map,
      Value.mapEntryMarks_eq_map, List.map_map]
    congr 1
    exact List.map_congr_left fun branch member => by simp [Scalar.relabel, ih branch member]

section Values

variable (faithful : labels.IsFaithful)
include faithful

/-- A renamed origin is among renamed ones where it was among them. -/
theorem Origin.contains_relabel (around : List Origin) (origin : Origin) :
    (around.map (relabel labels)).contains (origin.relabel labels) = around.contains origin := by
  induction around with
  | nil => rfl
  | cons other rest ih => simp only [List.map_cons, List.contains_cons, relabel_beq faithful, ih]

/-- What stands on a renamed shelf has the value it had, with the marks renamed. -/
theorem Shelf.value_relabel (shelf : Shelf) (fuel : Nat) (around : List Origin) (origin : Origin) :
    (shelf.relabel labels).value fuel (around.map (Origin.relabel labels)) (origin.relabel labels) =
      (shelf.value fuel around origin).mapMarks (Mark.relabel labels) := by
  induction fuel generalizing around origin with
  | zero =>
    rw [value, value, take_relabel faithful, Tree.kind_relabel faithful]
    rfl
  | succ fuel ih =>
    rw [value, value, take_relabel faithful, Tree.kind_relabel faithful,
      Origin.contains_relabel faithful]
    cases around.contains origin with
    | true => rfl
    | false => exact Tree.valueWith_relabel (ih (origin :: around)) _

/-- A relabelled graph holds the same value, apart from the marks. -/
theorem Graph.value_relabel (graph : Graph) :
    (graph.relabel labels).value = graph.value.mapMarks (Mark.relabel labels) := by
  have length : (graph.shelf.relabel labels).length = graph.shelf.length := List.length_map ..
  rw [value, value, Tree.value, Tree.value, relabel, length]
  exact Tree.valueWith_relabel (Shelf.value_relabel faithful graph.shelf _ []) graph.root

end Values

end Switchboard
