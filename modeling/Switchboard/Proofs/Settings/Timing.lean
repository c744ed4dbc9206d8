import Switchboard.Proofs.Settings.Sharing

/-!
# Loads and writes at other times

What a load puts in force depends on its moment only in so far as what comes into being then is told
apart by it from what came into being at other moments. So a load at another moment over relabelled
settings gives the relabelled result (`Store.load_relabel`), and so does a write (`Store.set_relabel`).
-/

namespace Switchboard.Settings

variable {labels : Relabelling}

/-! Merging. -/

/-- Entries one after the other are renamed one after the other. -/
theorem relabelBranches_append (front back : Branches) :
    relabelBranches labels (front ++ back) =
      relabelBranches labels front ++ relabelBranches labels back := by
  simp [relabelBranches_eq_map]

section Merging

variable (faithful : labels.IsFaithful) {shelf : Shelf} {moment : Nat}
include faithful

/-- Lower entries are merged with names as without, if what is under each key is. -/
theorem mergeLower_relabel {merge other : Scalar → Tree → Tree → Option Tree}
    (same : ∀ key lower upper, other (key.relabel labels) (lower.relabel labels)
      (upper.relabel labels) = (merge key lower upper).map (Tree.relabel labels))
    (lower upper : Branches) :
    mergeLower other (relabelBranches labels lower) (relabelBranches labels upper) =
      (mergeLower merge lower upper).map (relabelBranches labels) := by
  induction lower with
  | nil => rfl
  | cons branch rest ih =>
    obtain ⟨key, tree⟩ := branch
    have first : mergeUnder other (key.relabel labels) (tree.relabel labels)
        (relabelBranches labels upper) =
          (mergeUnder merge key tree upper).map (Tree.relabel labels) := by
      rw [mergeUnder, mergeUnder, get?_relabelBranches faithful]
      cases Entries.get? key upper with
      | none => rfl
      | some above => exact same key tree above
    simp only [relabelBranches, mergeLower, first, ih]
    cases mergeUnder merge key tree upper with
    | none => rfl
    | some merged => cases mergeLower merge rest upper <;> rfl

/-- The new entries of renamed maps are the new ones, renamed. -/
theorem newBranches_relabel (lower upper : Branches) :
    newBranches (relabelBranches labels lower) (relabelBranches labels upper) =
      relabelBranches labels (newBranches lower upper) := by
  simp only [newBranches, relabelBranches_eq_map, List.filter_map]
  congr 1
  refine List.filter_congr fun branch _ => ?_
  simp [Entries.has_map (Scalar.relabel_beq faithful)]

/-- Renamed trees merge into what they merged into, renamed, at the renamed moment. -/
theorem merge?_relabel (fuel : Nat) (path : List Scalar) (lower upper : Tree) :
    merge? (shelf.relabel labels) (labels.moment moment) fuel (path.map (Scalar.relabel labels))
        (lower.relabel labels) (upper.relabel labels) =
      (merge? shelf moment fuel path lower upper).map (Tree.relabel labels) := by
  induction fuel generalizing path lower upper with
  | zero => rfl
  | succ fuel ih =>
    rw [merge?, merge?, Tree.map?_relabel faithful, Tree.map?_relabel faithful]
    cases lower.map? shelf with
    | none => rfl
    | some low =>
      cases upper.map? shelf with
      | none => rfl
      | some high =>
        have step : mergeLower
            (fun key => merge? (shelf.relabel labels) (labels.moment moment) fuel
              (path.map (Scalar.relabel labels) ++ [key]))
            (relabelBranches labels low.2) (relabelBranches labels high.2) =
              (mergeLower (fun key => merge? shelf moment fuel (path ++ [key])) low.2 high.2).map
                (relabelBranches labels) :=
          mergeLower_relabel faithful (fun key below above => by simpa using ih (path ++ [key]) below above)
            low.2 high.2
        simp only [Option.map_some, step]
        cases mergeLower (fun key => merge? shelf moment fuel (path ++ [key])) low.2 high.2 with
        | none => rfl
        | some merged =>
          simp [Tree.relabel, Origin.relabel, relabelBranches_append, newBranches_relabel faithful]

/-- Renamed maps merge into what they merged into, renamed, at the renamed moment. -/
theorem mergeBranches?_relabel (lower upper : Branches) :
    mergeBranches? (shelf.relabel labels) (labels.moment moment) (relabelBranches labels lower)
        (relabelBranches labels upper) =
      (mergeBranches? shelf moment lower upper).map (relabelBranches labels) := by
  have step : mergeLower
      (fun key => merge? (shelf.relabel labels) (labels.moment moment) mergeDepth [key])
      (relabelBranches labels lower) (relabelBranches labels upper) =
        (mergeLower (fun key => merge? shelf moment mergeDepth [key]) lower upper).map
          (relabelBranches labels) :=
    mergeLower_relabel faithful
      (fun key below above => merge?_relabel faithful mergeDepth [key] below above) lower upper
  rw [mergeBranches?, mergeBranches?, step]
  cases mergeLower (fun key => merge? shelf moment mergeDepth [key]) lower upper with
  | none => rfl
  | some merged => simp [relabelBranches_append, newBranches_relabel faithful]

end Merging

/-! Reading. -/

section Reading

variable {occasion : Occasion}

/-- An occasion at other times. -/
def Occasion.relabel (labels : Relabelling) (occasion : Occasion) : Occasion where
  moment := labels.moment occasion.moment
  source := labels.source occasion.source

/-- What is stamped on an occasion has no time of its own. -/
theorem Occasion.stamp_relabel (occasion : Occasion) (graph : Graph) :
    (occasion.stamp graph).relabel labels = (occasion.relabel labels).stamp graph :=
  graph.relabel_relabel

/-- What grows on a renamed occasion is what grew, renamed. -/
theorem Occasion.grow_relabel (occasion : Occasion) (value : Value) :
    (occasion.grow value).relabel labels = (occasion.relabel labels).grow value :=
  occasion.stamp_relabel _

variable (faithful : labels.IsFaithful)
include faithful

/-- A document is settled with names as without. -/
theorem Format.settle_relabel (format : Format) (graph : Graph) :
    format.settle (graph.relabel labels) = (format.settle graph).relabel labels := by
  cases format with
  | json => rfl
  | yaml =>
    rw [settle, settle, graph.isTruthy_relabel faithful]
    cases graph.isTruthy <;> rfl

/-- A content that is read on a renamed occasion is what was read, renamed. -/
theorem readContent_relabel (format : Format) (path : String) (content : Content) :
    readContent format (occasion.relabel labels) path content =
      (readContent format occasion path content).map (Graph.relabel labels) := by
  have settled (graph : Graph) : format.settle ((occasion.relabel labels).stamp graph) =
      (format.settle (occasion.stamp graph)).relabel labels := by
    rw [← occasion.stamp_relabel, format.settle_relabel faithful]
  cases content with
  | directory => rfl
  | value value => exact congrArg Except.ok (settled _)
  | bytes bytes =>
    cases format with
    | yaml =>
      simp only [readContent, Format.read]
      cases Yaml.read (.ofBytes bytes) with
      | error fault => rfl
      | ok graph => exact congrArg Except.ok (settled graph)
    | json =>
      simp only [readContent, Format.read]
      split
      next => rfl
      next value _ => exact congrArg Except.ok (settled _)
      all_goals rfl

/-- A file that is read on a renamed occasion is what was read, renamed. -/
theorem readLayer_relabel (files : Files) (path : String) :
    (readLayer files (occasion.relabel labels) path).result =
      (readLayer files occasion path).result.map (Graph.relabel labels) := by
  cases sight : files.look (Path.plain path) with
  | missing | blocked => simp only [readLayer, sight]; rfl
  | nameTooLong | folder _ => simp only [readLayer, sight]; rfl
  | file place =>
    simp only [readLayer, sight]
    cases Format.ofPath? (Path.plain path) with
    | none => rfl
    | some format =>
      cases Entries.get? place files with
      | none => rfl
      | some content => exact readContent_relabel faithful format _ content

end Reading

namespace Store

/-- Layers with the moments in them renamed. -/
def Layers.relabel (labels : Relabelling) (layers : Layers) : Layers where
  branches := relabelBranches labels layers.branches
  shelf := layers.shelf.relabel labels

/-- A store with the moments in it renamed. -/
def relabel (labels : Relabelling) (store : Store) : Store :=
  { store with
    builtin := relabelBranches labels store.builtin
    current := relabelBranches labels store.current
    shelf := store.shelf.relabel labels }

section Loading

variable {moment : Nat} (faithful : labels.IsFaithful)
include faithful

/-- The entries of a renamed layer are its entries, renamed. -/
theorem layerBranches_relabel (layer : Graph) :
    layerBranches (layer.relabel labels) = (layerBranches layer).map (relabelBranches labels) := by
  have isMap : (layer.relabel labels).root.map? (layer.relabel labels).shelf =
      (layer.root.map? layer.shelf).map
        fun found => (found.1.relabel labels, relabelBranches labels found.2) :=
    layer.root.map?_relabel faithful layer.shelf
  have kind : (layer.relabel labels).kind = layer.kind :=
    layer.root.kind_relabel faithful layer.shelf
  rw [layerBranches, layerBranches, isMap, kind]
  cases layer.root.map? layer.shelf <;> rfl

/-- A renamed layer is added at the renamed moment as it was, renamed. -/
theorem addLayer_relabel (name : String) (layer : Graph) (below : Layers) :
    (addLayer (labels.moment moment) name (layer.relabel labels) (below.relabel labels)).result =
      (addLayer moment name layer below).result.map (Layers.relabel labels) := by
  unfold addLayer
  rw [layer.isTruthy_relabel faithful, layerBranches_relabel faithful]
  cases layer.isTruthy with
  | false => rfl
  | true =>
    have shelf : (layer.relabel labels).shelf ++ (below.relabel labels).shelf =
        Shelf.relabel labels (layer.shelf ++ below.shelf) := List.map_append.symm
    cases layerBranches layer with
    | error misuse => rfl
    | ok above =>
      have merged : mergeBranches? (Shelf.relabel labels (layer.shelf ++ below.shelf))
          (labels.moment moment) (below.relabel labels).branches (relabelBranches labels above) =
            (mergeBranches? (layer.shelf ++ below.shelf) moment below.branches above).map
              (relabelBranches labels) :=
        mergeBranches?_relabel faithful below.branches above
      simp only [if_true, Except.map, mapError_ok, Traced.result_bind, Traced.result_lift,
        Except.bind, shelf, merged]
      cases mergeBranches? (layer.shelf ++ below.shelf) moment below.branches above <;> rfl

/-- A load at another moment merges what is there at that moment. -/
theorem assemble_relabel (store : Store) (moment : Nat) (surroundings : Surroundings) :
    ((store.relabel labels).assemble (labels.moment moment) surroundings).result =
      (store.assemble moment surroundings).result.map (Layers.relabel labels) := by
  have layerOf (source : Nat) (name : String) :
      (readLayer surroundings.files ⟨labels.moment moment, source⟩ (store.filePath name)).result =
        (readLayer surroundings.files ⟨moment, source⟩ (store.filePath name)).result.map
          (Graph.relabel labels) := by
    rw [← readLayer_relabel faithful, Occasion.relabel, faithful.source]
  have environment (overrides : Section) :
      (⟨labels.moment moment, 2⟩ : Occasion).grow (.map overrides) =
        ((⟨moment, 2⟩ : Occasion).grow (.map overrides)).relabel labels := by
    rw [Occasion.grow_relabel, Occasion.relabel, faithful.source]
  have ofVariables : (readEnvironment surroundings.environment).result =
      (readEnvironment surroundings.environment).result.map id := by
    cases (readEnvironment surroundings.environment).result <;> rfl
  have noted : (Traced.log .info logger "Loading configuration from all sources" :
      Traced Fault Unit).result = .map id (.ok ()) := rfl
  unfold assemble
  refine Traced.result_bind_map noted fun _ => ?_
  refine Traced.result_bind_map (addLayer_relabel faithful _ store.builtinLayer {}) fun base => ?_
  refine Traced.result_bind_map (layerOf 0 "default.yaml") fun defaultFile => ?_
  refine Traced.result_bind_map (addLayer_relabel faithful _ defaultFile base)
    fun withDefaults => ?_
  refine Traced.result_bind_map (layerOf 1 "config.yaml") fun localFile => ?_
  refine Traced.result_bind_map (addLayer_relabel faithful _ localFile withDefaults)
    fun withLocal => ?_
  refine Traced.result_bind_map ofVariables fun overrides => ?_
  rw [id, environment]
  exact addLayer_relabel faithful _ _ withLocal

/-- A renamed store loads at the renamed moment what it loaded, renamed. -/
theorem load_relabel (store : Store) (moment : Nat) (surroundings : Surroundings) :
    ((store.relabel labels).load (labels.moment moment) surroundings).1 =
      ((store.load moment surroundings).1).relabel labels := by
  have relabelled := assemble_relabel faithful store moment surroundings
  cases assembled : (store.assemble moment surroundings).result with
  | error fault =>
    rw [assembled] at relabelled
    rw [load_of_error assembled, load_of_error relabelled]
  | ok layers =>
    rw [assembled] at relabelled
    rw [load_of_ok assembled, load_of_ok relabelled]
    rfl

end Loading

end Store

/-! Writing. -/

mutual

/-- What grows from a value is renamed with the origins that it is given and the marks in it. -/
theorem grow_relabel {name other : List Scalar → Origin}
    (same : ∀ path, (name path).relabel labels = other (path.map (Scalar.relabel labels)))
    (path : List Scalar) (value : Value) : (Tree.grow name path value).relabel labels =
      Tree.grow other (path.map (Scalar.relabel labels)) (value.mapMarks (Mark.relabel labels)) := by
  match value with
  | .scalar _ => rfl
  | .set _ => rfl
  | .again _ => rfl
  | .list items =>
    simp [Tree.grow, Tree.relabel, Value.mapMarks, growItems_relabel same path 0 items]
  | .map entries =>
    simp [Tree.grow, Tree.relabel, Value.mapMarks, same, growBranches_relabel same path entries]
  | .pair first second =>
    simp [Tree.grow, Tree.relabel, Value.mapMarks, grow_relabel same path first,
      grow_relabel same path second]

/-- What grows from items is renamed with the origins that it is given and the marks in them. -/
theorem growItems_relabel {name other : List Scalar → Origin}
    (same : ∀ path, (name path).relabel labels = other (path.map (Scalar.relabel labels)))
    (path : List Scalar) (index : Nat) (items : List Value) :
    relabelItems labels (growItems name path index items) =
      growItems other (path.map (Scalar.relabel labels)) index
        (Value.mapItemMarks (Mark.relabel labels) items) := by
  match items with
  | [] => rfl
  | item :: rest =>
    have deeper : (path ++ [Scalar.int index]).map (Scalar.relabel labels) =
        path.map (Scalar.relabel labels) ++ [Scalar.int index] := List.map_append
    simp [growItems, relabelItems, Value.mapItemMarks, grow_relabel same _ item, deeper,
      growItems_relabel same path (index + 1) rest]

/-- What grows from entries is renamed with the origins that it is given and the marks in them. -/
theorem growBranches_relabel {name other : List Scalar → Origin}
    (same : ∀ path, (name path).relabel labels = other (path.map (Scalar.relabel labels)))
    (path : List Scalar) (entries : List (Scalar × Value)) :
    relabelBranches labels (growBranches name path entries) =
      growBranches other (path.map (Scalar.relabel labels))
        (Value.mapEntryMarks (Mark.relabel labels) entries) := by
  match entries with
  | [] => rfl
  | (key, item) :: rest =>
    have deeper : (path ++ [key]).map (Scalar.relabel labels) =
        path.map (Scalar.relabel labels) ++ [key.mapMark (Mark.relabel labels)] := List.map_append
    simp only [growBranches, relabelBranches, Value.mapEntryMarks, grow_relabel same _ item, deeper,
      growBranches_relabel same path rest]
    rfl

end

/-- A value in maps of one key each has its marks changed in place, as the keys have. -/
theorem nested_mapMarks (change : Mark → Mark) (path : List Scalar) (item : Value) :
    (nested path item).mapMarks change =
      nested (path.map (Scalar.mapMark change)) (item.mapMarks change) := by
  induction path with
  | nil => rfl
  | cons key rest ih =>
    have here : nested (key :: rest) item = .map [(key, nested rest item)] := rfl
    simp only [here, Value.mapMarks, Value.mapEntryMarks, ih]
    rfl

/-- An edit with the moments in it renamed. -/
def Edit.relabel (labels : Relabelling) (edit : Edit) : Edit where
  target := edit.target.relabel labels
  branches := relabelBranches labels edit.branches

/-- A change with the moments in it renamed. -/
def Change.relabel (labels : Relabelling) : Change → Change
  | .top branches => .top (relabelBranches labels branches)
  | .inner edit => .inner (edit.relabel labels)

section Writing

variable (faithful : labels.IsFaithful) {shelf : Shelf} {moment : Nat} {item : Value}
include faithful

/-- What is planted at a renamed moment is what was planted, renamed. -/
theorem plant_relabel (above : List Scalar) (key : Scalar) (rest : List Scalar)
    (branches : Branches) :
    relabelBranches labels (plant moment item above key rest branches) =
      plant (labels.moment moment) (item.mapMarks (Mark.relabel labels))
        (above.map (Scalar.relabel labels)) (key.relabel labels) (rest.map (Scalar.relabel labels))
        (relabelBranches labels branches) := by
  have grown : (Tree.grow (.made moment) (above ++ [key]) (nested rest item)).relabel labels =
      Tree.grow (.made (labels.moment moment))
        (above.map (Scalar.relabel labels) ++ [key.relabel labels])
        (nested (rest.map (Scalar.relabel labels)) (item.mapMarks (Mark.relabel labels))) := by
    have deeper : (above ++ [key]).map (Scalar.relabel labels) =
        above.map (Scalar.relabel labels) ++ [key.relabel labels] := List.map_append
    rw [← deeper]
    exact (grow_relabel (fun _ => rfl) _ _).trans (by rw [nested_mapMarks]; rfl)
  rw [plant, plant, relabelBranches_eq_map, relabelBranches_eq_map, ← grown,
    Entries.put_map (Scalar.relabel_beq faithful)]

/-- The map under a renamed key is the one under the key, renamed. -/
theorem mapUnder?_relabel (key : Scalar) (branches : Branches) :
    mapUnder? (shelf.relabel labels) (key.relabel labels) (relabelBranches labels branches) =
      (mapUnder? shelf key branches).map
        fun found => (found.1.relabel labels, relabelBranches labels found.2) := by
  rw [mapUnder?, mapUnder?, get?_relabelBranches faithful]
  cases Entries.get? key branches with
  | none => rfl
  | some tree => exact tree.map?_relabel faithful shelf

section Planted

-- What is put into branches at one time and place, and what at another.
variable {put other : Planting} (same : ∀ above key rest branches,
  relabelBranches labels (put above key rest branches) =
    other (above.map (Scalar.relabel labels)) (key.relabel labels)
      (rest.map (Scalar.relabel labels)) (relabelBranches labels branches))
include same

/-- A write below a renamed map is the write that it was, renamed. -/
theorem editBelow_relabel (path : List Scalar) (origin : Origin) (above : List Scalar)
    (branches : Branches) :
    editBelow (shelf.relabel labels) other (origin.relabel labels)
        (above.map (Scalar.relabel labels)) (path.map (Scalar.relabel labels))
        (relabelBranches labels branches) =
      (editBelow shelf put origin above path branches).relabel labels := by
  induction path generalizing origin above branches with
  | nil => rfl
  | cons key rest ih =>
    have planted : (⟨origin.relabel labels, other (above.map (Scalar.relabel labels))
        (key.relabel labels) (rest.map (Scalar.relabel labels))
        (relabelBranches labels branches)⟩ : Edit) =
          Edit.relabel labels ⟨origin, put above key rest branches⟩ := by
      rw [Edit.relabel, same]
    cases rest with
    | nil => exact planted
    | cons next rest =>
      rw [List.map_cons, List.map_cons, editBelow_cons, editBelow_cons, mapUnder?_relabel faithful]
      cases mapUnder? shelf key branches with
      | none => exact planted
      | some found => simpa using ih found.1 (above ++ [key]) found.2

/-- A write into a renamed map is the write that it was, renamed. -/
theorem writeAt_relabel (path : List Scalar) (branches : Branches) :
    writeAt (shelf.relabel labels) other (path.map (Scalar.relabel labels))
        (relabelBranches labels branches) =
      (writeAt shelf put path branches).relabel labels := by
  cases path with
  | nil => rfl
  | cons key rest =>
    have planted : Change.top (other [] (key.relabel labels) (rest.map (Scalar.relabel labels))
        (relabelBranches labels branches)) =
          Change.relabel labels (.top (put [] key rest branches)) := by
      rw [Change.relabel, same]
      rfl
    cases rest with
    | nil => exact planted
    | cons next rest =>
      rw [List.map_cons, List.map_cons, writeAt_cons, writeAt_cons, mapUnder?_relabel faithful]
      cases mapUnder? shelf key branches with
      | none => exact planted
      | some found =>
        exact congrArg Change.inner
          (editBelow_relabel faithful same (next :: rest) found.1 [key] found.2)

end Planted

/-- An edit of a tree, renamed, is the renamed edit of the renamed tree. -/
theorem amend_relabel (edit : Edit) (tree : Tree) :
    (tree.amend edit).relabel labels = (tree.relabel labels).amend (edit.relabel labels) := by
  induction tree using Tree.induct with
  | scalar _ => rfl
  | set _ => rfl
  | shelved _ => rfl
  | list items ih =>
    simpa [Tree.amend, Tree.relabel, amendItems_eq_map, relabelItems_eq_map] using ih
  | pair first second firstSame secondSame =>
    simp only [Tree.amend, Tree.relabel, firstSame, secondSame]
  | map origin branches ih =>
    have target : (origin.relabel labels == (edit.relabel labels).target) =
        (origin == edit.target) := Origin.relabel_beq faithful origin edit.target
    have below : relabelBranches labels (amendBranches edit branches) =
        amendBranches (edit.relabel labels) (relabelBranches labels branches) := by
      simp only [relabelBranches_eq_map, amendBranches_eq_map, List.map_map]
      exact List.map_congr_left fun branch member => by simp [ih branch member]
    simp only [Tree.amend, Tree.relabel, target]
    split
    · rfl
    · rw [below]

/-- An edit of entries, renamed, is the renamed edit of the renamed entries. -/
theorem amendBranches_relabel (edit : Edit) (branches : Branches) :
    relabelBranches labels (amendBranches edit branches) =
      amendBranches (edit.relabel labels) (relabelBranches labels branches) := by
  simp only [relabelBranches_eq_map, amendBranches_eq_map, List.map_map]
  exact List.map_congr_left fun branch _ => by simp [amend_relabel faithful]

/-- An edit of a store, renamed, is the renamed edit of the renamed store. -/
theorem Store.amend_relabel (edit : Edit) (store : Store) :
    (store.amend edit).relabel labels = (store.relabel labels).amend (edit.relabel labels) := by
  have shelf : Shelf.relabel labels (store.shelf.amend edit) =
      (store.shelf.relabel labels).amend (edit.relabel labels) := by
    simp only [Shelf.relabel, Shelf.amend, List.map_map]
    exact List.map_congr_left fun entry _ => by simp [Settings.amend_relabel faithful]
  simp only [Store.amend, Store.relabel, amendBranches_relabel faithful, shelf]

/-- A write at another moment changes what is there at that moment. -/
theorem Store.set_relabel (store : Store) (dotted : String) :
    ((store.relabel labels).set (labels.moment moment) dotted
        (item.mapMarks (Mark.relabel labels))).1 =
      ((store.set moment dotted item).1).relabel labels := by
  have path : (dottedPath dotted).map (Scalar.relabel labels) = dottedPath dotted := by
    simp [dottedPath, Scalar.relabel, Scalar.mapMark]
  have written : writeAt (store.shelf.relabel labels)
      (plant (labels.moment moment) (item.mapMarks (Mark.relabel labels)))
      ((dottedPath dotted).map (Scalar.relabel labels)) (relabelBranches labels store.current) =
        (writeAt store.shelf (plant moment item) (dottedPath dotted) store.current).relabel labels :=
    writeAt_relabel faithful (plant_relabel faithful) (dottedPath dotted) store.current
  rw [path] at written
  unfold Store.set Store.write
  rw [show (store.relabel labels).shelf = store.shelf.relabel labels from rfl,
    show (store.relabel labels).current = relabelBranches labels store.current from rfl, written]
  cases writeAt store.shelf (plant moment item) (dottedPath dotted) store.current with
  | top branches => rfl
  | inner edit => exact (store.amend_relabel faithful edit).symm

end Writing

end Switchboard.Settings
