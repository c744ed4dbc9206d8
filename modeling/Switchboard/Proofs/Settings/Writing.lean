import Switchboard.Proofs.Settings.Reading

/-!
# What a write changes

A write at a path changes the innermost map that the path leads to, wherever that map stands: it
gets one branch, which is grown from what is written. Trees without this map stay what they are.
-/

namespace Switchboard

/-- The maps in a map of a tree are maps of the tree. -/
theorem maps_trans {tree : Tree} {found inner : Origin × Branches} (member : found ∈ tree.maps)
    (inside : inner ∈ branchMaps found.2) : inner ∈ tree.maps := by
  induction tree using Tree.induct with
  | scalar _ => simp [Tree.maps] at member
  | set _ => simp [Tree.maps] at member
  | shelved _ => simp [Tree.maps] at member
  | list items ih =>
    obtain ⟨item, among, inItem⟩ := mem_itemMaps.mp member
    exact mem_itemMaps.mpr ⟨item, among, ih item among inItem⟩
  | pair first second firstTrans secondTrans =>
    rcases List.mem_append.mp member with inFirst | inSecond
    · exact List.mem_append_left _ (firstTrans inFirst)
    · exact List.mem_append_right _ (secondTrans inSecond)
  | map origin branches ih =>
    rcases List.mem_cons.mp member with rfl | below
    · exact List.mem_cons_of_mem _ inside
    · obtain ⟨branch, among, inBranch⟩ := mem_branchMaps.mp below
      exact List.mem_cons_of_mem _ (mem_branchMaps.mpr ⟨branch, among, ih branch among inBranch⟩)

/-- What is in a map of some entries is in the entries. -/
theorem branchMaps_trans {branches : Branches} {found inner : Origin × Branches}
    (member : found ∈ branchMaps branches) (inside : inner ∈ branchMaps found.2) :
    inner ∈ branchMaps branches := by
  obtain ⟨branch, among, inBranch⟩ := mem_branchMaps.mp member
  exact mem_branchMaps.mpr ⟨branch, among, maps_trans inBranch inside⟩

/-- What a map of a tree names the tree names. -/
theorem names_of_maps {tree : Tree} {found : Origin × Branches} {named : Origin}
    (member : found ∈ tree.maps) (isNamed : named ∈ branchNames found.2) : named ∈ tree.names := by
  induction tree using Tree.induct with
  | scalar _ => simp [Tree.maps] at member
  | set _ => simp [Tree.maps] at member
  | shelved _ => simp [Tree.maps] at member
  | list items ih =>
    obtain ⟨item, among, inItem⟩ := mem_itemMaps.mp member
    exact mem_itemNames.mpr ⟨item, among, ih item among inItem⟩
  | pair first second firstNames secondNames =>
    rcases List.mem_append.mp member with inFirst | inSecond
    · exact List.mem_append_left _ (firstNames inFirst)
    · exact List.mem_append_right _ (secondNames inSecond)
  | map origin branches ih =>
    rcases List.mem_cons.mp member with rfl | below
    · exact isNamed
    · obtain ⟨branch, among, inBranch⟩ := mem_branchMaps.mp below
      exact mem_branchNames.mpr ⟨branch, among, ih branch among inBranch⟩

/-- What a map of some entries names, the entries name. -/
theorem branchNames_of_maps {branches : Branches} {found : Origin × Branches} {named : Origin}
    (member : found ∈ branchMaps branches) (isNamed : named ∈ branchNames found.2) :
    named ∈ branchNames branches := by
  obtain ⟨branch, among, inBranch⟩ := mem_branchMaps.mp member
  exact mem_branchNames.mpr ⟨branch, among, names_of_maps inBranch isNamed⟩

section Amending

variable {edit : Settings.Edit}

/-- Items are edited one by one. -/
theorem amendItems_eq_map (edit : Settings.Edit) (items : List Tree) :
    amendItems edit items = items.map (Tree.amend edit) := by
  induction items with
  | nil => rfl
  | cons item rest ih => simp [amendItems, ih]

/-- Entries are edited one by one. -/
theorem amendBranches_eq_map (edit : Settings.Edit) (branches : Branches) :
    amendBranches edit branches = branches.map fun branch => (branch.1, branch.2.amend edit) := by
  induction branches with
  | nil => rfl
  | cons branch rest ih => simp [amendBranches, ih]

/-- A tree without the map that is written into stays what it is. -/
theorem amend_of_absent {tree : Tree}
    (absent : ∀ found ∈ tree.maps, (found.1 == edit.target) = false) : tree.amend edit = tree := by
  induction tree using Tree.induct with
  | scalar _ => rfl
  | set _ => rfl
  | shelved _ => rfl
  | list items ih =>
    have same : ∀ item ∈ items, item.amend edit = item := fun item among =>
      ih item among fun found inItem => absent found (mem_itemMaps.mpr ⟨item, among, inItem⟩)
    rw [Tree.amend, amendItems_eq_map, List.map_congr_left same, List.map_id']
  | pair first second firstSame secondSame =>
    simp only [Tree.maps, List.forall_mem_append] at absent
    simp only [Tree.amend, firstSame absent.1, secondSame absent.2]
  | map origin branches ih =>
    simp only [Tree.maps, List.forall_mem_cons] at absent
    have same : ∀ branch ∈ branches, (branch.1, branch.2.amend edit) = branch := by
      intro branch among
      rw [ih branch among fun found inBranch =>
        absent.2 found (mem_branchMaps.mpr ⟨branch, among, inBranch⟩)]
    simp only [Tree.amend, absent.1, Bool.false_eq_true, if_false]
    rw [amendBranches_eq_map, List.map_congr_left same, List.map_id']

/-- An edit of a map that is not there changes nothing. -/
theorem amendBranches_of_absent {branches : Branches}
    (absent : ∀ found ∈ branchMaps branches, (found.1 == edit.target) = false) :
    amendBranches edit branches = branches := by
  have same : ∀ branch ∈ branches, (branch.1, branch.2.amend edit) = branch := by
    intro branch among
    rw [amend_of_absent fun found inBranch =>
      absent found (mem_branchMaps.mpr ⟨branch, among, inBranch⟩)]
  rw [amendBranches_eq_map, List.map_congr_left same, List.map_id']

/-- An amended tree names what the tree named, or what was written. -/
theorem names_amend {tree : Tree} {named : Origin} (isNamed : named ∈ (tree.amend edit).names) :
    named ∈ tree.names ∨ named ∈ branchNames edit.branches := by
  induction tree using Tree.induct with
  | scalar _ => exact .inl isNamed
  | set _ => exact .inl isNamed
  | shelved _ => exact .inl isNamed
  | list items ih =>
    rw [Tree.amend, amendItems_eq_map] at isNamed
    obtain ⟨_, among, inItem⟩ := mem_itemNames.mp isNamed
    obtain ⟨item, isItem, rfl⟩ := List.mem_map.mp among
    exact (ih item isItem inItem).imp_left fun known => mem_itemNames.mpr ⟨item, isItem, known⟩
  | pair first second ofFirst ofSecond =>
    rcases List.mem_append.mp isNamed with inFirst | inSecond
    · exact (ofFirst inFirst).imp_left (List.mem_append_left _)
    · exact (ofSecond inSecond).imp_left (List.mem_append_right _)
  | map origin branches ih =>
    cases isTarget : origin == edit.target with
    | true => exact .inr (by simpa [Tree.amend, isTarget, Tree.names] using isNamed)
    | false =>
      have within : named ∈ branchNames (amendBranches edit branches) := by
        simpa [Tree.amend, isTarget, Tree.names] using isNamed
      rw [amendBranches_eq_map] at within
      obtain ⟨_, among, inBranch⟩ := mem_branchNames.mp within
      obtain ⟨branch, isBranch, rfl⟩ := List.mem_map.mp among
      exact (ih branch isBranch inBranch).imp_left fun known =>
        mem_branchNames.mpr ⟨branch, isBranch, known⟩

/-- Edited entries name what they named and what the edit names. -/
theorem branchNames_amend {branches : Branches} {named : Origin}
    (isNamed : named ∈ branchNames (amendBranches edit branches)) :
    named ∈ branchNames branches ∨ named ∈ branchNames edit.branches := by
  rw [amendBranches_eq_map] at isNamed
  obtain ⟨_, among, inBranch⟩ := mem_branchNames.mp isNamed
  obtain ⟨branch, isBranch, rfl⟩ := List.mem_map.mp among
  exact (names_amend inBranch).imp_left fun known => mem_branchNames.mpr ⟨branch, isBranch, known⟩

/-- Where a map comes from that stands in an amended tree: it is the one written into, another one
of the tree, or a map in what was written. -/
inductive Amended (edit : Settings.Edit) (before : List (Origin × Branches)) :
    Origin × Branches → Prop
  | target {origin : Origin} {branches : Branches} (known : (origin, branches) ∈ before)
      (isTarget : (origin == edit.target) = true) : Amended edit before (origin, edit.branches)
  | kept {origin : Origin} {branches : Branches} (known : (origin, branches) ∈ before)
      (apart : (origin == edit.target) = false) :
      Amended edit before (origin, amendBranches edit branches)
  | written {found : Origin × Branches} (within : found ∈ branchMaps edit.branches) :
      Amended edit before found

/-- A map that comes of an edit of some maps comes of one of more. -/
theorem Amended.mono {before others : List (Origin × Branches)} {found : Origin × Branches}
    (amended : Amended edit before found) (all : ∀ known ∈ before, known ∈ others) :
    Amended edit others found := by
  cases amended with
  | target known isTarget => exact .target (all _ known) isTarget
  | kept known apart => exact .kept (all _ known) apart
  | written within => exact .written within

/-- A map after the write has the origin that it had before, unless it was written. -/
theorem Amended.old_or_written {before : List (Origin × Branches)} {found : Origin × Branches}
    (amended : Amended edit before found) :
    (∃ known ∈ before, known.1 = found.1) ∨ found ∈ branchMaps edit.branches := by
  cases amended with
  | target known _ => exact .inl ⟨_, known, rfl⟩
  | kept known _ => exact .inl ⟨_, known, rfl⟩
  | written within => exact .inr within

/-- The maps of an edited tree come of its maps by the edit. -/
theorem maps_amend {tree : Tree} {found : Origin × Branches}
    (member : found ∈ (tree.amend edit).maps) : Amended edit tree.maps found := by
  induction tree using Tree.induct with
  | scalar _ => simp [Tree.amend, Tree.maps] at member
  | set _ => simp [Tree.amend, Tree.maps] at member
  | shelved _ => simp [Tree.amend, Tree.maps] at member
  | list items ih =>
    rw [Tree.amend, amendItems_eq_map] at member
    obtain ⟨_, among, inItem⟩ := mem_itemMaps.mp member
    obtain ⟨item, isItem, rfl⟩ := List.mem_map.mp among
    exact (ih item isItem inItem).mono fun known inside => mem_itemMaps.mpr ⟨item, isItem, inside⟩
  | pair first second ofFirst ofSecond =>
    rcases List.mem_append.mp member with inFirst | inSecond
    · exact (ofFirst inFirst).mono fun _ => List.mem_append_left _
    · exact (ofSecond inSecond).mono fun _ => List.mem_append_right _
  | map origin branches ih =>
    cases isTarget : origin == edit.target with
    | true =>
      simp only [Tree.amend, isTarget, if_true, Tree.maps, List.mem_cons] at member
      rcases member with rfl | within
      · exact .target List.mem_cons_self isTarget
      · exact .written within
    | false =>
      simp only [Tree.amend, isTarget, Bool.false_eq_true, if_false, Tree.maps,
        List.mem_cons] at member
      rcases member with rfl | within
      · exact .kept List.mem_cons_self isTarget
      · rw [amendBranches_eq_map] at within
        obtain ⟨_, among, inBranch⟩ := mem_branchMaps.mp within
        obtain ⟨branch, isBranch, rfl⟩ := List.mem_map.mp among
        exact (ih branch isBranch inBranch).mono fun known inside =>
          List.mem_cons_of_mem _ (mem_branchMaps.mpr ⟨branch, isBranch, inside⟩)

/-- The maps of edited entries come of their maps by the edit. -/
theorem branchMaps_amend {branches : Branches} {found : Origin × Branches}
    (member : found ∈ branchMaps (amendBranches edit branches)) :
    Amended edit (branchMaps branches) found := by
  rw [amendBranches_eq_map] at member
  obtain ⟨_, among, inBranch⟩ := mem_branchMaps.mp member
  obtain ⟨branch, isBranch, rfl⟩ := List.mem_map.mp among
  exact (maps_amend inBranch).mono fun known inside => mem_branchMaps.mpr ⟨branch, isBranch, inside⟩

end Amending

namespace Settings

section Planting

variable {moment : Nat} {item : Value}

/-- What is planted into branches names nothing. -/
theorem branchNames_plant {above : List Scalar} {key : Scalar} {rest : List Scalar}
    {branches : Branches} {named : Origin}
    (isNamed : named ∈ branchNames (plant moment item above key rest branches)) :
    named ∈ branchNames branches := by
  obtain ⟨branch, among, inBranch⟩ := mem_branchNames.mp isNamed
  rcases Entries.mem_put among with old | ⟨_, planted⟩
  · exact mem_branchNames.mpr ⟨branch, old, inBranch⟩
  · simp [planted, names_grow] at inBranch

/-- The maps of planted branches are old ones, or were made at the moment and name nothing. -/
theorem branchMaps_plant {above : List Scalar} {key : Scalar} {rest : List Scalar}
    {branches : Branches} {found : Origin × Branches}
    (member : found ∈ branchMaps (plant moment item above key rest branches)) :
    found ∈ branchMaps branches ∨
      ((∃ path, found.1 = .made moment path) ∧ branchNames found.2 = [] ∧
        ∀ inner ∈ branchMaps found.2, ∃ path, inner.1 = .made moment path) := by
  obtain ⟨branch, among, inBranch⟩ := mem_branchMaps.mp member
  rcases Entries.mem_put among with old | ⟨_, planted⟩
  · exact .inl (mem_branchMaps.mpr ⟨branch, old, inBranch⟩)
  · rw [planted] at inBranch
    have made := maps_grow (fun origin => ∃ path, origin = .made moment path) (.made moment)
      (fun path => ⟨path, rfl⟩) (above ++ [key]) (nested rest item)
    refine .inr ⟨made found inBranch, ?plain, ?inner⟩
    case plain =>
      refine List.eq_nil_iff_forall_not_mem.mpr fun named isNamed => ?_
      simpa [names_grow] using names_of_maps inBranch isNamed
    case inner => exact fun inner inside => made inner (maps_trans inBranch inside)

end Planting

section Following

variable {shelf : Shelf} {put : Planting}

/-- With keys left after the next one, a write goes into the map under that one if there is one. -/
theorem editBelow_cons (origin : Origin) (above : List Scalar) (key next : Scalar)
    (rest : List Scalar) (branches : Branches) :
    editBelow shelf put origin above (key :: next :: rest) branches =
      match mapUnder? shelf key branches with
      | some (inner, below) => editBelow shelf put inner (above ++ [key]) (next :: rest) below
      | none => ⟨origin, put above key (next :: rest) branches⟩ := by
  cases inner : mapUnder? shelf key branches <;> simp [editBelow, inner]

/-- So does one at the top, which changes the settings themselves if there is no such map. -/
theorem writeAt_cons (key next : Scalar) (rest : List Scalar) (branches : Branches) :
    writeAt shelf put (key :: next :: rest) branches =
      match mapUnder? shelf key branches with
      | some (inner, below) => .inner (editBelow shelf put inner [key] (next :: rest) below)
      | none => .top (put [] key (next :: rest) branches) := by
  cases inner : mapUnder? shelf key branches <;> simp [writeAt, inner]

end Following

end Settings

end Switchboard
