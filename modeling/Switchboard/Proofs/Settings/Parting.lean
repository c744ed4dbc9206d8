import Switchboard.Proofs.Settings.Amending

/-!
# Where paths part

A write puts a value at the end of a path: it goes into the innermost map that the path leads to, and what is
left of the path becomes maps around the value. The path leads to the value afterwards, if it did not meet the
map on the way to it (`Graph.Opens`). A path that parts from this one leads to the value that it led to, if
the map does not stand there as well (`Graph.valueAt?_written`): the two may part in a map on the way, at
another key of the map itself, or further on, where there was nothing.
-/

namespace Switchboard

open Settings

section Nested

variable {name : List Scalar → Origin} {shelf : Shelf} {item : Value}

/-- A whole value in maps of one key each is whole. -/
theorem isWhole_nested (path : List Scalar) (whole : item.isWhole = true) :
    (nested path item).isWhole = true := by
  induction path with
  | nil => exact whole
  | cons key rest ih =>
    have step : (nested (key :: rest) item).isWhole = ((nested rest item).isWhole && true) := rfl
    rw [step, ih]
    rfl

/-- What grows from a value in maps of one key each is a map of one key, and so on below it. -/
theorem grow_nested_cons (above : List Scalar) (key : Scalar) (rest : List Scalar) :
    Tree.grow name above (nested (key :: rest) item) =
      .map (name above) [(key, Tree.grow name (above ++ [key]) (nested rest item))] := by
  simp [nested, Tree.grow, growBranches]

/-- At the end of its path what was written stands. -/
theorem at?_grow_nested (above path : List Scalar) :
    (Tree.grow name above (nested path item)).at? shelf path =
      some (Tree.grow name (above ++ path) item) := by
  induction path generalizing above with
  | nil => simp [nested, Tree.at?]
  | cons key rest ih =>
    rw [grow_nested_cons, Tree.at?_cons]
    simpa [Entries.get?] using ih (above ++ [key])

/-- A path that parts from it leads nowhere. -/
theorem at?_grow_nested_of_fork {key other : Scalar} (apart : (key == other) = false)
    (above common rest tail : List Scalar) :
    (Tree.grow name above (nested (common ++ key :: rest) item)).at? shelf
      (common ++ other :: tail) = none := by
  induction common generalizing above with
  | nil =>
    rw [List.nil_append, List.nil_append, grow_nested_cons, Tree.at?_cons]
    simp [Entries.get?, apart]
  | cons first common ih =>
    rw [List.cons_append, List.cons_append, grow_nested_cons, Tree.at?_cons]
    simpa [Entries.get?] using ih (above ++ [first])

/-- The keys lead to the map around the value. -/
theorem mapAt?_grow_nested (above front : List Scalar) (key : Scalar) :
    (Tree.grow name above (nested (front ++ [key]) item)).mapAt? shelf front =
      some (name (above ++ front), [(key, Tree.grow name (above ++ front ++ [key]) item)]) := by
  induction front generalizing above with
  | nil => simp [nested, Tree.grow, growBranches]
  | cons first front ih =>
    rw [List.cons_append, grow_nested_cons, Tree.mapAt?_cons]
    simpa [Entries.get?] using ih (above ++ [first])

/-- A write into the innermost of the maps on a path, which are told apart by their paths. -/
theorem valueWith_amend_nested (shelved : Origin → Value) (moment : Nat) (item : Value)
    (above front : List Scalar) (key : Scalar) (branches : Branches) :
    ((Tree.grow (.made moment) above (nested (front ++ [key]) item)).amend
      ⟨.made moment (above ++ front), branches⟩).valueWith shelved =
        nested front (.map (branchesWith shelved branches)) := by
  induction front generalizing above with
  | nil =>
    rw [List.nil_append, grow_nested_cons]
    simp [Tree.amend, Tree.valueWith, nested]
  | cons first front ih =>
    have apart : (Origin.made moment above == .made moment (above ++ first :: front)) = false := by
      rw [Bool.eq_false_iff]
      intro same
      have lengths := congrArg List.length (Origin.made_beq_iff.mp same).2
      simp [placeOf] at lengths
    have inner := ih (above ++ [first])
    rw [List.append_assoc, List.singleton_append] at inner
    rw [List.cons_append, grow_nested_cons, Tree.amend, apart]
    simpa [amendBranches, Tree.valueWith, branchesWith, nested] using inner

/-- To put a tree under a key puts its value there. -/
theorem branchesWith_put (shelved : Origin → Value) (key : Scalar) (tree : Tree)
    (branches : Branches) : branchesWith shelved (Entries.put key tree branches) =
      Entries.put key (tree.valueWith shelved) (branchesWith shelved branches) := by
  rw [branchesWith_eq_map, branchesWith_eq_map]
  exact (Entries.put_map_items (Tree.valueWith shelved) key branches tree).symm

/-- An edit that came later changes what was put, and nothing that was there. -/
theorem amendBranches_put {later : Edit} {below : Branches} (key : Scalar) (tree : Tree)
    (fresh : ∀ found ∈ branchMaps below, (found.1 == later.target) = false) :
    amendBranches later (Entries.put key tree below) =
      Entries.put key (tree.amend later) below := by
  have mapped := Entries.put_map_items (Tree.amend later) key below tree
  rw [← amendBranches_eq_map, ← amendBranches_eq_map, amendBranches_of_absent fresh] at mapped
  exact mapped.symm

end Nested

/-- Paths neither of which goes on from the other part at some key. -/
theorem exists_fork {path other : List Scalar} (noFront : ¬path <+: other)
    (notLonger : ¬other <+: path) : ∃ common key rest otherKey tail,
      path = common ++ key :: rest ∧ other = common ++ otherKey :: tail ∧ key ≠ otherKey := by
  induction path generalizing other with
  | nil => exact absurd (List.nil_prefix) noFront
  | cons key rest ih =>
    cases other with
    | nil => exact absurd (List.nil_prefix) notLonger
    | cons otherKey tail =>
      by_cases same : key = otherKey
      · subst same
        obtain ⟨common, next, later, otherNext, otherLater, isPath, isOther, apart⟩ :=
          ih (fun isFront => noFront (List.cons_prefix_cons.mpr ⟨rfl, isFront⟩))
            (fun isFront => notLonger (List.cons_prefix_cons.mpr ⟨rfl, isFront⟩))
        exact ⟨key :: common, next, later, otherNext, otherLater, by rw [isPath]; rfl,
          by rw [isOther]; rfl, apart⟩
      · exact ⟨[], key, rest, otherKey, tail, rfl, rfl, same⟩

/-- What a path has in common with another ends before a front of it, with that front, or further on. -/
theorem fork_cases {common front rest ending : List Scalar} {key last : Scalar}
    (isPath : front ++ last :: ending = common ++ key :: rest) :
    (common <+: front ∧ common ≠ front) ∨ (common = front ∧ last = key ∧ ending = rest) ∨
      ∃ more, common = front ++ last :: more ∧ ending = more ++ key :: rest := by
  rcases List.append_eq_append_iff.mp isPath with ⟨more, rfl, isEnding⟩ | ⟨more, rfl, isRest⟩
  · cases more with
    | nil => exact .inr (.inl ⟨List.append_nil front, List.cons.inj isEnding⟩)
    | cons next more =>
      obtain ⟨rfl, others⟩ := List.cons.inj isEnding
      exact .inr (.inr ⟨more, rfl, others⟩)
  · cases more with
    | nil =>
      obtain ⟨same, others⟩ := List.cons.inj isRest
      exact .inr (.inl ⟨(List.append_nil common).symm, same.symm, others.symm⟩)
    | cons next more => exact .inl ⟨List.prefix_append .., by simp⟩

/-- The keys that a dotted key stands for are texts, so they are one key only if they are equal. -/
theorem dottedPath_apart {dotted other : String} {key otherKey : Scalar}
    (member : key ∈ dottedPath dotted) (otherMember : otherKey ∈ dottedPath other)
    (apart : key ≠ otherKey) : (key == otherKey) = false := by
  obtain ⟨_, _, rfl⟩ := List.mem_map.mp member
  obtain ⟨_, _, rfl⟩ := List.mem_map.mp otherMember
  rw [Bool.eq_false_iff]
  intro same
  apply apart
  simpa [Scalar.beq_iff, Scalar.identity] using same

namespace Graph

variable {graph : Graph} {path reached : List Scalar} {target : Origin} {below : Branches}

/-- The value at the end of a path. -/
def valueAt? (graph : Graph) (path : List Scalar) : Option Value :=
  (graph.root.at? graph.shelf path).map (Tree.value graph.shelf)

/-- A value is got by its path, or the default is. -/
theorem get_eq (graph : Graph) (dotted : String) (default : Value) :
    graph.get dotted default = (graph.valueAt? (dottedPath dotted)).getD default := by
  unfold get Graph.at? valueAt?
  cases graph.root.at? graph.shelf (dottedPath dotted) <;> rfl

/-- Where a path leads no further it has no key left, or there is no map under the next one. -/
theorem LeadsTo.stops {last : Scalar} {ending : List Scalar}
    (leads : graph.LeadsTo (reached ++ last :: ending) reached)
    (here : graph.root.mapAt? graph.shelf reached = some (target, below)) :
    ending = [] ∨ mapUnder? graph.shelf last below = none := by
  by_cases noEnding : ending = []
  · exact .inl noEnding
  cases deeper : mapUnder? graph.shelf last below with
  | none => exact .inr rfl
  | some found =>
    -- The path would go on by this key.
    have goesOn : graph.root.mapAt? graph.shelf (reached ++ [last]) = some found := by
      rw [Tree.mapAt?_append, here, Option.bind_some, mapAt?_singleton, deeper]
    have further : reached ++ [last] <+: reached := by
      apply leads.longest
      · rw [List.dropLast_append_of_ne_nil (List.cons_ne_nil last ending),
          List.dropLast_cons_of_ne_nil noEnding]
        simp
      · intro front _ isFront
        exact (graph.holding_eq_map_iff front).mpr (Tree.mapAt?_of_prefix isFront goesOn)
    exact absurd further.length_le (by simp)

/-- A path leads to a map that is not on the way to it, and no further. -/
structure Opens (graph : Graph) (path reached : List Scalar) (target : Origin) : Prop where
  leads : graph.LeadsTo path reached
  ends : ∃ below, graph.root.mapAt? graph.shelf reached = some (target, below)
  straight : graph.root.Avoids graph.shelf target reached

/-- The graph after a write into the map at a place; at the top it changes nothing else. -/
def written (graph : Graph) (reached : List Scalar) (edit : Edit) : Graph :=
  if reached.isEmpty then { graph with root := .map edit.target edit.branches } else graph.amend edit

/-- Where a path parts from another one, what it leads to does not hold a map. -/
def Spares (graph : Graph) (target : Origin) (path other : List Scalar) : Prop :=
  ∀ front tree, front <+: other → ¬front <+: path →
    graph.root.at? graph.shelf front = some tree → ¬tree.Holds graph.shelf target

section Written

variable (edit : Edit) (avoids : graph.root.Avoids graph.shelf edit.target reached)

include avoids in

/-- The path still leads to the map that was written into. -/
theorem mapAt?_written (here : graph.root.mapAt? graph.shelf reached = some (edit.target, below)) :
    (graph.written reached edit).root.mapAt? (graph.written reached edit).shelf reached =
      some (edit.target, edit.branches) := by
  cases reached with
  | nil => simp [written]
  | cons first rest =>
    rw [written, if_neg (by simp), amend, Tree.mapAt?_amend avoids, here]
    simp [Tree.branchesAfter]

include avoids in

/-- A path that parts from it before the map that was written into leads to the value that it led to. -/
theorem valueAt?_written_of_front {front : List Scalar} (isFront : front <+: reached)
    (short : front ≠ reached) {found : Origin × Branches}
    (here : graph.root.mapAt? graph.shelf front = some found) (key : Scalar) (tail : List Scalar)
    (spared : ∀ tree, Entries.get? key found.2 = some tree → ¬tree.Holds graph.shelf edit.target) :
    (graph.written reached edit).valueAt? (front ++ key :: tail) =
      graph.valueAt? (front ++ key :: tail) := by
  have inside : ¬reached.isEmpty = true := by
    intro isEmpty
    obtain rfl := List.isEmpty_iff.mp isEmpty
    exact short (List.prefix_nil.mp isFront)
  have apart : (found.1 == edit.target) = false := avoids front found isFront short here
  have after : (graph.root.amend edit).mapAt? (graph.shelf.amend edit) front =
      some (found.1, amendBranches edit found.2) := by
    rw [Tree.mapAt?_amend (avoids.of_prefix isFront), here]
    simp [Tree.branchesAfter, apart]
  rw [written, if_neg inside, valueAt?, valueAt?, amend, Tree.at?_append_cons after,
    Tree.at?_append_cons here, get?_amendBranches]
  cases under : Entries.get? key found.2 with
  | none => rfl
  | some tree =>
    have outside := spared tree under
    simpa [Tree.amend_of_not_holds outside] using Tree.at?_amend_of_not_holds outside tail

variable (here : graph.root.mapAt? graph.shelf reached = some (edit.target, below))
include avoids here

/-- A path that parts from it at another key of the map leads to the value that it led to. -/
theorem valueAt?_written_of_other {moment : Nat} {last key : Scalar} {ending : List Scalar}
    {item : Value} (isPlanted : edit.branches = plant moment item reached last ending below)
    (apart : (last == key) = false) (tail : List Scalar)
    (spared : reached ≠ [] → ∀ tree, Entries.get? key below = some tree →
      ¬tree.Holds graph.shelf edit.target) :
    (graph.written reached edit).valueAt? (reached ++ key :: tail) =
      graph.valueAt? (reached ++ key :: tail) := by
  have found : Entries.get? key edit.branches = Entries.get? key below := by
    rw [isPlanted, plant, Entries.get?_put, apart, if_neg Bool.false_ne_true]
  rw [valueAt?, valueAt?, Tree.at?_append_cons (mapAt?_written edit avoids here),
    Tree.at?_append_cons here, found]
  cases reached with
  | nil => rfl
  | cons first rest =>
    cases under : Entries.get? key below with
    | none => rfl
    | some tree => exact Tree.at?_amend_of_not_holds (spared (List.cons_ne_nil _ _) tree under) tail

/-- A path that parts from it further on leads nowhere, before and after. -/
theorem valueAt?_written_of_beyond {moment : Nat} {last key other : Scalar}
    {common rest tail : List Scalar} {item : Value}
    (isPlanted : edit.branches = plant moment item reached last (common ++ key :: rest) below)
    (apart : (key == other) = false) (noMap : mapUnder? graph.shelf last below = none) :
    (graph.written reached edit).valueAt? (reached ++ last :: (common ++ other :: tail)) =
      graph.valueAt? (reached ++ last :: (common ++ other :: tail)) := by
  have before : graph.root.at? graph.shelf (reached ++ last :: (common ++ other :: tail)) = none := by
    rw [Tree.at?_append_cons here]
    cases under : Entries.get? last below with
    | none => rfl
    | some tree =>
      have isNone : tree.map? graph.shelf = none := by simpa [mapUnder?, under] using noMap
      obtain ⟨next, more, isMore⟩ : ∃ next more, common ++ other :: tail = next :: more :=
        List.exists_cons_of_ne_nil (by simp)
      rw [Option.bind_some, isMore, Tree.at?_cons, isNone]
      rfl
  rw [valueAt?, valueAt?, before, Tree.at?_append_cons (mapAt?_written edit avoids here), isPlanted, plant,
    Entries.get?_put_self, Option.bind_some, at?_grow_nested_of_fork apart]
  rfl

/-- What a path parting from it leads to is what it led to, where that is spared. -/
theorem valueAt?_written {moment : Nat} {last : Scalar} {ending other : List Scalar} {item : Value}
    (isPlanted : edit.branches = plant moment item reached last ending below)
    (stops : ending = [] ∨ mapUnder? graph.shelf last below = none)
    (noFront : ¬other <+: reached ++ last :: ending)
    (notLonger : ¬reached ++ last :: ending <+: other)
    (keys : ∀ key ∈ reached ++ last :: ending, ∀ otherKey ∈ other,
      key ≠ otherKey → (key == otherKey) = false)
    (spares : reached ≠ [] → graph.Spares edit.target (reached ++ last :: ending) other) :
    (graph.written reached edit).valueAt? other = graph.valueAt? other := by
  obtain ⟨common, key, rest, otherKey, tail, isPath, rfl, differ⟩ := exists_fork notLonger noFront
  have apart : (key == otherKey) = false :=
    keys key (by simp [isPath]) otherKey (by simp) differ
  -- What stands under the key at which the other path parts is spared.
  have spared : reached ≠ [] → ∀ found, graph.root.mapAt? graph.shelf common = some found →
      ∀ tree, Entries.get? otherKey found.2 = some tree → ¬tree.Holds graph.shelf edit.target := by
    intro inside found there tree under
    refine spares inside (common ++ [otherKey]) tree (by simp) ?_ ?_
    · rw [isPath, List.prefix_append_right_inj]
      exact fun isFront => differ (List.cons_prefix_cons.mp isFront).1.symm
    · rw [Tree.at?_append_cons there, under]
      rfl
  rcases fork_cases isPath with ⟨front, short⟩ | ⟨rfl, rfl, rfl⟩ | ⟨more, rfl, rfl⟩
  · -- The paths part on the way to the map.
    obtain ⟨found, there⟩ := Option.isSome_iff_exists.mp (Tree.mapAt?_of_prefix front here)
    refine valueAt?_written_of_front edit avoids front short there otherKey tail (spared ?_ found there)
    rintro rfl
    exact short (List.prefix_nil.mp front)
  · -- They part at the map.
    exact valueAt?_written_of_other edit avoids here isPlanted apart tail
      fun inside => spared inside _ here
  · -- They part among the keys that the map does not lead on by.
    rw [List.append_assoc]
    exact valueAt?_written_of_beyond edit avoids here isPlanted apart (stops.resolve_left (by simp))

end Written

section Twice

variable {edit later : Edit} {branches other : Branches}

/-- A path that avoids a map avoids it after the map was written to. -/
theorem avoids_written (edit : Edit) (avoids : graph.root.Avoids graph.shelf edit.target reached) :
    (graph.written reached edit).root.Avoids (graph.written reached edit).shelf edit.target
      reached := by
  intro front found isFront short here
  cases reached with
  | nil => exact absurd (List.prefix_nil.mp isFront) short
  | cons first rest =>
    rw [written, if_neg (by simp), amend, Tree.mapAt?_amend (avoids.of_prefix isFront),
      Option.map_eq_some_iff] at here
    obtain ⟨old, there, rfl⟩ := here
    exact avoids front old isFront short there

/-- The later of two writes into one map decides. -/
theorem written_written : (graph.written reached edit).written reached ⟨edit.target, branches⟩ =
    graph.written reached ⟨edit.target, branches⟩ := by
  cases reached with
  | nil => rfl
  | cons first rest =>
    have known (found : Origin × Branches) : if found.1 == edit.target then
          Tree.branchesAfter ⟨edit.target, branches⟩ (found.1, edit.branches) = branches
        else (found.1 == edit.target) = false := by
      split
      next isTarget => simp [Tree.branchesAfter, isTarget]
      next other => simpa using other
    have root := Tree.amend_amend ⟨edit.target, branches⟩ graph.root fun found _ => known found
    have shelf := Shelf.amend_amend ⟨edit.target, branches⟩ graph.shelf fun found _ => known found
    simp only [written, List.isEmpty_cons, Bool.false_eq_true, if_false, amend, root, shelf]

/-- A write into a map that the first of two writes made changes what that one wrote. -/
theorem amend_written (isOther : (edit.target == later.target) = false)
    (fresh : ∀ found ∈ Store.graphMaps graph, (found.1 == later.target) = false) :
    (graph.written reached edit).amend later =
      graph.written reached ⟨edit.target, amendBranches later edit.branches⟩ := by
  obtain ⟨freshRoot, freshShelf⟩ := List.forall_mem_append.mp fresh
  cases reached with
  | nil =>
    have shelf : graph.shelf.amend later = graph.shelf := Shelf.amend_of_absent freshShelf
    simp [written, amend, Tree.amend, isOther, shelf]
  | cons first rest =>
    have known (found : Origin × Branches) (isFresh : (found.1 == later.target) = false) :
        if found.1 == edit.target then
          Tree.branchesAfter later (found.1, edit.branches) = amendBranches later edit.branches
        else (found.1 == later.target) = false := by
      split
      · simp [Tree.branchesAfter, isFresh]
      · exact isFresh
    have root := Tree.amend_amend later graph.root fun found member =>
      known found (freshRoot found member)
    have shelf := Shelf.amend_amend later graph.shelf fun found member =>
      known found (freshShelf found member)
    simp only [written, List.isEmpty_cons, Bool.false_eq_true, if_false, amend, root, shelf]

/-- Writes of entries that read alike are read alike. -/
theorem value_written_congr {target : Origin} (alike : Alike branches other) :
    (graph.written reached ⟨target, branches⟩).value =
      (graph.written reached ⟨target, other⟩).value := by
  cases reached with
  | nil => simp [written, value, Tree.value, Tree.valueWith, alike _]
  | cons first rest => exact Tree.value_amend_congr alike

end Twice

end Graph

end Switchboard
