import Switchboard.Proofs.Settings.Relabelling
import Switchboard.Settings.File

/-!
# What is read from a source

Whatever a file holds, the graph that is read from it names only collections that were read from
it, and the maps in it came into being when it was read. What stands on its shelf are collections.
A value that is written into settings has maps of its own and names nothing.
-/

namespace Switchboard

mutual

/-- A tree that was grown from a value names nothing. -/
theorem names_grow (name : List Scalar → Origin) (path : List Scalar) (value : Value) :
    (Tree.grow name path value).names = [] := by
  match value with
  | .scalar _ => rfl
  | .set _ => rfl
  | .again _ => rfl
  | .list items => simpa [Tree.grow, Tree.names] using itemNames_grow name path 0 items
  | .map entries => simpa [Tree.grow, Tree.names] using branchNames_grow name path entries
  | .pair first second =>
    simp [Tree.grow, Tree.names, names_grow name path first, names_grow name path second]

/-- What grows from items names nothing on a shelf. -/
theorem itemNames_grow (name : List Scalar → Origin) (path : List Scalar) (index : Nat)
    (items : List Value) : itemNames (growItems name path index items) = [] := by
  match items with
  | [] => rfl
  | item :: rest =>
    simp [growItems, itemNames, names_grow name _ item, itemNames_grow name path (index + 1) rest]

/-- What grows from entries names nothing on a shelf. -/
theorem branchNames_grow (name : List Scalar → Origin) (path : List Scalar)
    (entries : List (Scalar × Value)) : branchNames (growBranches name path entries) = [] := by
  match entries with
  | [] => rfl
  | (key, item) :: rest =>
    simp [growBranches, branchNames, names_grow name _ item, branchNames_grow name path rest]

end

mutual

/-- The maps of a grown tree have the origins that they were given. -/
theorem maps_grow (kind : Origin → Prop) (name : List Scalar → Origin)
    (given : ∀ path, kind (name path)) (path : List Scalar) (value : Value) :
    ∀ found ∈ (Tree.grow name path value).maps, kind found.1 := by
  match value with
  | .scalar _ => simp [Tree.grow, Tree.maps]
  | .set _ => simp [Tree.grow, Tree.maps]
  | .again _ => simp [Tree.grow, Tree.maps, itemMaps]
  | .list items => simpa [Tree.grow, Tree.maps] using itemMaps_grow kind name given path 0 items
  | .map entries =>
    simpa [Tree.grow, Tree.maps, given path] using branchMaps_grow kind name given path entries
  | .pair first second =>
    intro found member
    rw [Tree.grow, Tree.maps, List.mem_append] at member
    rcases member with inFirst | inSecond
    · exact maps_grow kind name given path first found inFirst
    · exact maps_grow kind name given path second found inSecond

/-- The maps that grow from items have the origins that they are given. -/
theorem itemMaps_grow (kind : Origin → Prop) (name : List Scalar → Origin)
    (given : ∀ path, kind (name path)) (path : List Scalar) (index : Nat) (items : List Value) :
    ∀ found ∈ itemMaps (growItems name path index items), kind found.1 := by
  match items with
  | [] => simp [growItems, itemMaps]
  | item :: rest =>
    intro found member
    rw [growItems, itemMaps, List.mem_append] at member
    rcases member with inItem | inRest
    · exact maps_grow kind name given _ item found inItem
    · exact itemMaps_grow kind name given path (index + 1) rest found inRest

/-- The maps that grow from entries have the origins that they are given. -/
theorem branchMaps_grow (kind : Origin → Prop) (name : List Scalar → Origin)
    (given : ∀ path, kind (name path)) (path : List Scalar) (entries : List (Scalar × Value)) :
    ∀ found ∈ branchMaps (growBranches name path entries), kind found.1 := by
  match entries with
  | [] => simp [growBranches, branchMaps]
  | (key, item) :: rest =>
    intro found member
    rw [growBranches, branchMaps, List.mem_append] at member
    rcases member with inItem | inRest
    · exact maps_grow kind name given _ item found inItem
    · exact branchMaps_grow kind name given path rest found inRest

end

namespace Yaml.Assembly

variable {kind : Origin → Prop} {below : Item → Tree}

/-- The tree of contents names what is named in them. -/
theorem treeOf_names (known : ∀ item, ∀ named ∈ (below item).names, kind named) (origin : Origin)
    (contents : Contents) : ∀ named ∈ (treeOf origin below contents).names, kind named := by
  intro named isNamed
  cases contents with
  | list items =>
    obtain ⟨tree, member, inside⟩ := mem_itemNames.mp isNamed
    obtain ⟨item, _, rfl⟩ := List.mem_map.mp member
    exact known item named inside
  | pairs found =>
    obtain ⟨tree, member, inside⟩ := mem_itemNames.mp isNamed
    obtain ⟨pair, _, rfl⟩ := List.mem_map.mp member
    rcases List.mem_append.mp inside with inFirst | inSecond
    · exact known pair.1 named inFirst
    · exact known pair.2 named inSecond
  | set members => simp [treeOf, Tree.names] at isNamed
  | map entries =>
    obtain ⟨branch, member, inside⟩ := mem_branchNames.mp isNamed
    obtain ⟨entry, _, rfl⟩ := List.mem_map.mp member
    exact known entry.2 named inside

/-- The tree of contents has its own map and those in them. -/
theorem treeOf_maps (known : ∀ item, ∀ found ∈ (below item).maps, kind found.1) {origin : Origin}
    (own : kind origin) (contents : Contents) :
    ∀ found ∈ (treeOf origin below contents).maps, kind found.1 := by
  intro found member
  cases contents with
  | list items =>
    obtain ⟨tree, among, inside⟩ := mem_itemMaps.mp member
    obtain ⟨item, _, rfl⟩ := List.mem_map.mp among
    exact known item found inside
  | pairs pairs =>
    obtain ⟨tree, among, inside⟩ := mem_itemMaps.mp member
    obtain ⟨pair, _, rfl⟩ := List.mem_map.mp among
    rcases List.mem_append.mp inside with inFirst | inSecond
    · exact known pair.1 found inFirst
    · exact known pair.2 found inSecond
  | set members => simp [treeOf, Tree.maps] at member
  | map entries =>
    rcases List.mem_cons.mp member with rfl | inside
    · exact own
    · obtain ⟨branch, among, inBranch⟩ := mem_branchMaps.mp inside
      obtain ⟨entry, _, rfl⟩ := List.mem_map.mp among
      exact known entry.2 found inBranch

section

variable {name : Nat → Origin} (given : ∀ number, kind (name number)) (contents : Array Contents)
  (isShared : Nat → Bool)
include given

/-- The tree of an item names only what contents are called by. -/
theorem treeOfItem_names (fuel : Nat) (item : Item) :
    ∀ named ∈ (treeOfItem contents isShared name fuel item).names, kind named := by
  induction fuel generalizing item with
  | zero => cases item <;> simp [treeOfItem, Tree.names, given]
  | succ fuel ih =>
    cases item with
    | scalar content => simp [treeOfItem, Tree.names]
    | collection number =>
      cases shared : isShared number with
      | true => simp [treeOfItem, shared, Tree.names, given]
      | false => simpa [treeOfItem, shared] using treeOf_names ih (name number) _

/-- The maps in the tree of an item have the origins that are given to contents. -/
theorem treeOfItem_maps (fuel : Nat) (item : Item) :
    ∀ found ∈ (treeOfItem contents isShared name fuel item).maps, kind found.1 := by
  induction fuel generalizing item with
  | zero => cases item <;> simp [treeOfItem, Tree.maps]
  | succ fuel ih =>
    cases item with
    | scalar content => simp [treeOfItem, Tree.maps]
    | collection number =>
      cases shared : isShared number with
      | true => simp [treeOfItem, shared, Tree.maps]
      | false => simpa [treeOfItem, shared] using treeOf_maps ih (given number) _

/-- The maps of the graph of a document have the origins that they were given. -/
theorem graph_maps (root : Item) :
    (∀ found ∈ (graph name root contents).root.maps, kind found.1) ∧
      ∀ entry ∈ (graph name root contents).shelf, ∀ found ∈ entry.2.maps, kind found.1 := by
  refine ⟨treeOfItem_maps given contents _ _ root, fun entry member => ?_⟩
  obtain ⟨number, _, rfl⟩ := List.mem_map.mp member
  exact treeOf_maps (treeOfItem_maps given contents _ _) (given number) _

end

end Yaml.Assembly

namespace Origin

/-- Whether an origin is that of a map that came into being in a moment, or to which nothing is
written. -/
def IsNew (moment : Nat) (origin : Origin) : Prop :=
  match origin with
  | .alone => True
  | .made known _ | .read known _ _ => known = moment

end Origin

/-- Whether a tree is a collection itself. -/
def Tree.isCollection : Tree → Bool
  | .list _ | .pair _ _ | .set _ | .map _ _ => true
  | .scalar _ | .shelved _ => false

/-- Whether a tree is a collection does not depend on names. -/
theorem Tree.isCollection_relabel {labels : Relabelling} (tree : Tree) :
    tree.isCollection = (tree.relabel labels).isCollection := by
  cases tree <;> rfl

/-- The tree of contents is a collection. -/
theorem Yaml.Assembly.treeOf_isCollection (origin : Origin) (below : Item → Tree)
    (contents : Contents) : (treeOf origin below contents).isCollection = true := by
  cases contents <;> rfl

/-- What is read of a text without a document is null, and else it is the graph of the document. -/
theorem Yaml.read_cases {text : Source} {made : Graph} (read : Yaml.read text = .ok made) :
    made = default ∨ ∃ root contents, made = Assembly.graph (.read 0 0) root contents := by
  unfold Yaml.read at read
  cases parsed : Document.ofTokens? (Token.scan text) with
  | error fault => simp [parsed, bind, Except.bind] at read
  | ok found =>
    cases found with
    | none => exact .inl (by simpa [parsed, bind, Except.bind, pure, Except.pure, eq_comm] using read)
    | some document =>
      simp only [parsed, bind, Except.bind, Document.toGraph] at read
      cases run : (Assembly.makeDocument document).run (.ofDocument document) with
      | error fault => simp [run] at read
      | ok result =>
        refine .inr ⟨result.1, result.2.contents, ?_⟩
        simpa [run, pure, Except.pure, eq_comm] using read

/-- A graph that was read from a source in a moment: it names only what was read from there, and its
maps came into being then. -/
structure Graph.ReadFrom (moment source : Nat) (graph : Graph) : Prop
    extends graph.Within moment [source] where
  maps : ∀ found ∈ graph.root.maps, found.1.IsNew moment
  shelfMaps : ∀ entry ∈ graph.shelf, ∀ found ∈ entry.2.maps, found.1.IsNew moment
  collections : ∀ entry ∈ graph.shelf, entry.2.isCollection = true

namespace Graph.ReadFrom

variable {moment source : Nat}

/-- A tree that names nothing and whose maps are new was read. -/
theorem of_lone {tree : Tree} (names : tree.names = [])
    (maps : ∀ found ∈ tree.maps, found.1.IsNew moment) :
    Graph.ReadFrom moment source { root := tree } where
  toWithin := .of_lone names
  maps := maps
  shelfMaps := by simp
  collections := by simp

/-- A value whose maps are nobody's counts as read. -/
theorem ofValue (value : Value) : (Graph.ofValue value).ReadFrom moment source :=
  of_lone (names_grow ..)
    (maps_grow (Origin.IsNew moment) (fun _ => .alone) (fun _ => trivial) [] value)

/-- What was read comes into being on the occasion on which it is read. -/
theorem stamp {graph : Graph} (read : graph.ReadFrom moment source)
    (occasion : Settings.Occasion) :
    (occasion.stamp graph).ReadFrom occasion.moment occasion.source := by
  let labels : Relabelling := ⟨fun _ => occasion.moment, fun _ => occasion.source⟩
  have isOf : ∀ {origin : Origin}, origin.IsOf moment [source] →
      (origin.relabel labels).IsOf occasion.moment [occasion.source] := by
    rintro _ ⟨_, _, number, rfl⟩
    exact ⟨occasion.source, List.mem_singleton_self _, number, rfl⟩
  have isNew : ∀ origin : Origin, (origin.relabel labels).IsNew occasion.moment := by
    intro origin
    cases origin <;> simp [Origin.relabel, Origin.IsNew, labels]
  refine ⟨⟨?root, ?keys, ?shelf⟩, ?maps, ?shelfMaps, ?collections⟩
  case root =>
    intro named isNamed
    obtain ⟨old, known, rfl⟩ := Tree.mem_names_relabel isNamed
    exact isOf (read.root old known)
  case maps =>
    intro found member
    obtain ⟨old, _, same⟩ := Tree.mem_maps_relabel member
    exact same ▸ isNew old.1
  all_goals
    intro entry member
    obtain ⟨old, among, rfl⟩ := List.mem_map.mp member
  case keys => exact isOf (read.keys old among)
  case collections => exact Tree.isCollection_relabel old.2 ▸ read.collections old among
  case shelf =>
    intro named isNamed
    obtain ⟨known, inOld, rfl⟩ := Tree.mem_names_relabel isNamed
    exact isOf (read.shelf old among known inOld)
  case shelfMaps =>
    intro found inEntry
    obtain ⟨known, _, same⟩ := Tree.mem_maps_relabel inEntry
    exact same ▸ isNew known.1

/-- What grows on an occasion was read on it. -/
theorem grow (occasion : Settings.Occasion) (value : Value) :
    (occasion.grow value).ReadFrom occasion.moment occasion.source := by
  have lone : Graph.ReadFrom 0 0 { root := Tree.grow (.made 0) [] value } :=
    of_lone (names_grow ..) (maps_grow (Origin.IsNew 0) (.made 0) (fun _ => rfl) [] value)
  exact lone.stamp occasion

/-- In the graph of a document every collection has the number of its node. -/
theorem graph (root : Yaml.Item) (contents : Array Yaml.Contents) :
    (Yaml.Assembly.graph (.read moment source) root contents).ReadFrom moment source := by
  have isOf : ∀ number, (Origin.read moment source number).IsOf moment [source] :=
    fun number => ⟨source, List.mem_singleton_self source, number, rfl⟩
  have isNew : ∀ number, (Origin.read moment source number).IsNew moment := fun _ => rfl
  have maps := Yaml.Assembly.graph_maps isNew contents root
  refine ⟨⟨?root, ?keys, ?shelf⟩, maps.1, maps.2, ?collections⟩
  case root => exact Yaml.Assembly.treeOfItem_names isOf contents _ _ root
  all_goals
    intro entry member
    obtain ⟨number, _, rfl⟩ := List.mem_map.mp member
  case keys => exact isOf number
  case collections => exact Yaml.Assembly.treeOf_isCollection ..
  case shelf =>
    exact Yaml.Assembly.treeOf_names (Yaml.Assembly.treeOfItem_names isOf contents _ _) _ _

/-- What is read of a text has its own origins only. -/
theorem ofYaml {text : Yaml.Source} {made : Graph} (read : Yaml.read text = .ok made) :
    made.ReadFrom 0 0 := by
  obtain rfl | ⟨root, contents, rfl⟩ := Yaml.read_cases read
  · exact of_lone rfl (fun found member => by simp [default, Tree.maps] at member)
  · exact graph ..

end Graph.ReadFrom

namespace Settings

/-- What grows on an occasion names nothing on a shelf. -/
theorem Occasion.names_grow (occasion : Occasion) (value : Value) :
    (occasion.grow value).root.names = [] := by
  refine List.eq_nil_iff_forall_not_mem.mpr fun named isNamed => ?_
  obtain ⟨old, known, _⟩ := Tree.mem_names_relabel isNamed
  simp [Switchboard.names_grow] at known

/-- A path that starts in the working folder is followed part by part. -/
theorem Files.look_eq_follow (files : Files) {path : String} (noNull : '\x00' ∉ path.toList)
    (short : path.utf8ByteSize ≤ Path.pathLimit) (unrooted : ¬"/".toList <+: path.toList) :
    files.look path = Path.follow files.isFolder? [] (Path.parts path) := by
  have notRooted : Path.isRooted path = false := by
    rw [Bool.eq_false_iff]
    exact fun rooted => unrooted (String.startsWith_string_iff.mp rooted)
  simp [look, String.contains_char_eq, noNull, Nat.not_lt.mpr short, notRooted]

variable {occasion : Occasion} {path : String} {graph : Graph}

/-- A file that is missing has an empty layer. -/
theorem readLayer_of_missing {files : Files} (sight : files.look (Path.plain path) = .missing) :
    (readLayer files occasion path).result = .ok (.ofValue (.map [])) := by
  simp [readLayer, sight, Traced.ok]

/-- A file that is there has the layer that its content is read as. -/
theorem readLayer_of_content {files : Files} {place : Path.Place} {format : Format}
    {content : Content} (sight : files.look (Path.plain path) = .file place)
    (ending : Format.ofPath? (Path.plain path) = some format)
    (found : Entries.get? place files = some content) :
    (readLayer files occasion path).result =
      readContent format occasion (Path.plain path) content := by
  simp [readLayer, sight, ending, found]

/-- What is settled is what was there, or nothing. -/
theorem Format.settle_cases (format : Format) (graph : Graph) :
    format.settle graph = graph ∨ format.settle graph = .ofValue (.map []) := by
  cases format with
  | json => exact .inl rfl
  | yaml =>
    unfold settle
    cases graph.isTruthy with
    | true => exact .inl rfl
    | false => exact .inr rfl

/-- What a layer is made of: nothing, or one value, or what a text of YAML writes, as it comes into
being when it is read. -/
inductive Occasion.Yields (occasion : Occasion) : Graph → Prop
  | nothing : Yields occasion (.ofValue (.map []))
  | grown (value : Value) : Yields occasion (occasion.grow value)
  | written {text : Yaml.Source} {made : Graph} (read : Yaml.read text = .ok made) :
    Yields occasion (occasion.stamp made)

/-- A settled document was read on the occasion. -/
theorem Format.yields_settle (format : Format) (yields : occasion.Yields graph) :
    occasion.Yields (format.settle graph) := by
  rcases format.settle_cases graph with same | empty
  · rwa [same]
  · rw [empty]
    exact .nothing

/-- What a format reads was read on the occasion. -/
theorem Format.yields_read {format : Format} {bytes : List UInt8}
    (read : format.read occasion path bytes = .ok graph) : occasion.Yields graph := by
  cases format with
  | yaml =>
    have stamped := mapError_eq_ok_iff.mp read
    cases written : Yaml.read (.ofBytes bytes) with
    | error fault => simp [written, Except.map] at stamped
    | ok found =>
      obtain rfl : occasion.stamp found = graph := by simpa [written, Except.map] using stamped
      exact .written written
  | json =>
    simp only [Format.read] at read
    split at read
    next => contradiction
    next value _ =>
      obtain rfl : occasion.grow value = graph := by simpa using read
      exact .grown value
    all_goals contradiction

/-- What a content is read as was read on the occasion. -/
theorem readContent_yields {format : Format} {content : Content}
    (read : readContent format occasion path content = .ok graph) : occasion.Yields graph := by
  cases content with
  | directory => contradiction
  | value value =>
    obtain rfl : format.settle (occasion.grow value) = graph := by simpa [readContent] using read
    exact format.yields_settle (.grown value)
  | bytes bytes =>
    cases written : format.read occasion path bytes with
    | error fault => simp [readContent, written, Except.map] at read
    | ok found =>
      obtain rfl : format.settle found = graph := by
        simpa [readContent, written, Except.map] using read
      exact format.yields_settle (Format.yields_read written)

/-- What a file is read as was read on the occasion. -/
theorem readLayer_yields {files : Files}
    (read : (readLayer files occasion path).result = .ok graph) : occasion.Yields graph := by
  cases sight : files.look (Path.plain path) with
  | missing | blocked =>
    obtain rfl : Graph.ofValue (.map []) = graph := by
      simpa [readLayer, sight, Traced.ok] using read
    exact .nothing
  | nameTooLong | folder _ => simp [readLayer, sight, Traced.fail] at read
  | file place =>
    simp only [readLayer, sight] at read
    cases format? : Format.ofPath? (Path.plain path) with
    | none =>
      obtain rfl : Graph.ofValue (.map []) = graph := by
        simpa [format?, Traced.log, bind, Traced.bind, pure, Traced.ok] using read
      exact .nothing
    | some format =>
      simp only [format?, Traced.lift] at read
      cases found : Entries.get? place files with
      | none =>
        obtain rfl : Graph.ofValue (.map []) = graph := by simpa [found] using read
        exact .nothing
      | some content => exact readContent_yields (by simpa [found] using read)

/-- Whatever stands at a path, what is read is read from there. -/
theorem readLayer_readFrom {files : Files}
    (read : (readLayer files occasion path).result = .ok graph) :
    graph.ReadFrom occasion.moment occasion.source := by
  cases readLayer_yields read with
  | nothing => exact .ofValue _
  | grown value => exact .grow occasion value
  | written text => exact (Graph.ReadFrom.ofYaml text).stamp occasion

end Settings

end Switchboard
