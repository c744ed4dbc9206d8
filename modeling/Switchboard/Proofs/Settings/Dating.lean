import Switchboard.Proofs.Settings.Timing

/-!
# What a store has lived through

A number that is none is told apart by when it came into being, and so nothing that a store holds at a
moment bears a later mark, as long as nothing that is written does. Such a store stays as it is when
later moments are called by other names (`Store.Lived.relabel_eq`).
-/

namespace Switchboard

namespace Mark

/-- Whether a mark is not that of something later than a moment. -/
def IsBy (moment : Nat) : Mark → Prop
  | .word => True
  | .given known | .read known _ _ => known ≤ moment

/-- Whether a mark is that of something that came with the command of a moment, or has no time. -/
def IsGivenAt (moment : Nat) (mark : Mark) : Prop := mark = .word ∨ mark = .given moment

/-- A mark of a moment that keeps its name keeps its own. -/
theorem IsGivenAt.relabel_eq {labels : Relabelling} {moment : Nat} {mark : Mark}
    (given : mark.IsGivenAt moment) (fixed : labels.moment moment = moment) :
    mark.relabel labels = mark := by
  rcases given with rfl | rfl
  · rfl
  · rw [relabel, fixed]

end Mark

/-- The mark of a scalar, if it is a number with one. -/
def Scalar.marks : Scalar → List Mark
  | .float number => [number.mark]
  | _ => []

/-- A change that keeps the mark of a scalar keeps the scalar. -/
theorem Scalar.mapMark_eq_self {change : Mark → Mark} {content : Scalar}
    (fixed : ∀ mark ∈ content.marks, change mark = mark) : content.mapMark change = content := by
  cases content with
  | float number => simp [mapMark, fixed number.mark (by simp [marks])]
  | _ => rfl

namespace Value

mutual

/-- The marks of the numbers in a value, those that are keys included. -/
def marks : Value → List Mark
  | .scalar content => content.marks
  | .list items => itemMarks items
  | .map entries => entryMarks entries
  | .pair first second => first.marks ++ second.marks
  | .set members => members.flatMap Scalar.marks
  | .again _ => []

/-- The marks in items. -/
def itemMarks : List Value → List Mark
  | [] => []
  | item :: rest => item.marks ++ itemMarks rest

/-- The marks in entries, those of keys included. -/
def entryMarks : List (Scalar × Value) → List Mark
  | [] => []
  | (key, item) :: rest => key.marks ++ item.marks ++ entryMarks rest

end

mutual

/-- A change that keeps all marks of a value keeps the value. -/
theorem mapMarks_eq_self {change : Mark → Mark} (value : Value)
    (fixed : ∀ mark ∈ value.marks, change mark = mark) : value.mapMarks change = value := by
  match value with
  | .scalar content => simp [mapMarks, Scalar.mapMark_eq_self (by simpa [marks] using fixed)]
  | .again _ => rfl
  | .set members =>
    have same : ∀ member ∈ members, member.mapMark change = member := fun member among =>
      Scalar.mapMark_eq_self fun mark inMember =>
        fixed mark (List.mem_flatMap.mpr ⟨member, among, inMember⟩)
    rw [mapMarks, List.map_congr_left same, List.map_id']
  | .list items => rw [mapMarks, mapItemMarks_eq_self items (by simpa [marks] using fixed)]
  | .map entries => rw [mapMarks, mapEntryMarks_eq_self entries (by simpa [marks] using fixed)]
  | .pair first second =>
    simp only [marks, List.forall_mem_append] at fixed
    rw [mapMarks, mapMarks_eq_self first fixed.1, mapMarks_eq_self second fixed.2]

/-- A change that keeps all marks of items keeps the items. -/
theorem mapItemMarks_eq_self {change : Mark → Mark} (items : List Value)
    (fixed : ∀ mark ∈ itemMarks items, change mark = mark) : mapItemMarks change items = items := by
  match items with
  | [] => rfl
  | item :: rest =>
    simp only [itemMarks, List.forall_mem_append] at fixed
    rw [mapItemMarks, mapMarks_eq_self item fixed.1, mapItemMarks_eq_self rest fixed.2]

/-- A change that keeps all marks of entries keeps the entries. -/
theorem mapEntryMarks_eq_self {change : Mark → Mark} (entries : List (Scalar × Value))
    (fixed : ∀ mark ∈ entryMarks entries, change mark = mark) :
    mapEntryMarks change entries = entries := by
  match entries with
  | [] => rfl
  | (key, item) :: rest =>
    simp only [entryMarks, List.forall_mem_append] at fixed
    rw [mapEntryMarks, Scalar.mapMark_eq_self fixed.1.1, mapMarks_eq_self item fixed.1.2,
      mapEntryMarks_eq_self rest fixed.2]

end

mutual

/-- To change the marks of a value twice is to change them once by both. -/
theorem mapMarks_mapMarks (change other : Mark → Mark) (value : Value) :
    (value.mapMarks change).mapMarks other = value.mapMarks fun mark => other (change mark) := by
  match value with
  | .scalar content => simp [mapMarks, Scalar.mapMark_mapMark]
  | .again _ => rfl
  | .set members => simp [mapMarks, Scalar.mapMark_mapMark]
  | .list items => simp [mapMarks, mapItemMarks_mapItemMarks change other items]
  | .map entries => simp [mapMarks, mapEntryMarks_mapEntryMarks change other entries]
  | .pair first second =>
    simp [mapMarks, mapMarks_mapMarks change other first, mapMarks_mapMarks change other second]

/-- To change the marks of items twice is to change them once by both. -/
theorem mapItemMarks_mapItemMarks (change other : Mark → Mark) (items : List Value) :
    mapItemMarks other (mapItemMarks change items) =
      mapItemMarks (fun mark => other (change mark)) items := by
  match items with
  | [] => rfl
  | item :: rest =>
    simp [mapItemMarks, mapMarks_mapMarks change other item,
      mapItemMarks_mapItemMarks change other rest]

/-- To change the marks of entries twice is to change them once by both. -/
theorem mapEntryMarks_mapEntryMarks (change other : Mark → Mark)
    (entries : List (Scalar × Value)) :
    mapEntryMarks other (mapEntryMarks change entries) =
      mapEntryMarks (fun mark => other (change mark)) entries := by
  match entries with
  | [] => rfl
  | (key, item) :: rest =>
    simp [mapEntryMarks, Scalar.mapMark_mapMark, mapMarks_mapMarks change other item,
      mapEntryMarks_mapEntryMarks change other rest]

end

/-- A value without its marks, which are never shown. -/
def unmarked (value : Value) : Value := value.mapMarks fun _ => .word

/-- A value without its marks does not depend on them. -/
theorem unmarked_mapMarks (change : Mark → Mark) (value : Value) :
    (value.mapMarks change).unmarked = value.unmarked :=
  mapMarks_mapMarks ..

end Value

namespace Settings.Store

/-- The stores of a folder that loads and writes lead to, each at a moment of its own; what is written
bears no mark of a later moment. -/
inductive Lived (folder : String) : Nat → Store → Prop
  | fresh : Lived folder 0 { folder }
  | load {before moment : Nat} {store : Store} (known : Lived folder before store)
      (later : before < moment) (surroundings : Surroundings) :
      Lived folder moment (store.load moment surroundings).1
  | set {before moment : Nat} {store : Store} (known : Lived folder before store)
      (later : before < moment) (dotted : String) {item : Value}
      (marks : ∀ mark ∈ item.marks, mark.IsBy moment) :
      Lived folder moment (store.set moment dotted item).1

/-- A store that lived is reachable. -/
theorem Lived.reachable {folder : String} {moment : Nat} {store : Store}
    (lived : Lived folder moment store) : Reachable folder moment store := by
  induction lived with
  | fresh => exact .fresh
  | load _ later surroundings ih => exact ih.load later surroundings
  | set _ later dotted _ ih => exact ih.set later dotted _

/-- What has been is not changed by what later moments are called. -/
theorem Lived.relabel_eq {folder : String} {moment : Nat} {store : Store}
    (lived : Lived folder moment store) {labels : Relabelling} (faithful : labels.IsFaithful)
    (fixed : ∀ known, known ≤ moment → labels.moment known = known) :
    store.relabel labels = store := by
  induction lived with
  | fresh =>
    have named : ∀ path, (Origin.made 0 path).relabel labels =
        .made 0 (path.map (Scalar.relabel labels)) := by
      simp [Origin.relabel, fixed 0]
    have none : Value.entryMarks Settings.builtin = [] := rfl
    have unmarked : Value.mapEntryMarks (Mark.relabel labels) Settings.builtin = Settings.builtin :=
      Value.mapEntryMarks_eq_self Settings.builtin (by simp [none])
    have same : relabelBranches labels (growBranches (.made 0) [] Settings.builtin) =
        growBranches (.made 0) [] Settings.builtin :=
      (growBranches_relabel named [] Settings.builtin).trans (by rw [unmarked]; rfl)
    simp only [relabel, same]
    rfl
  | @load before moment store _ later surroundings ih =>
    have same := ih fun known before => fixed known (Nat.le_trans before (Nat.le_of_lt later))
    rw [← load_relabel faithful, same, fixed moment (Nat.le_refl moment)]
  | @set before moment store _ later dotted item marks ih =>
    have same := ih fun known before => fixed known (Nat.le_trans before (Nat.le_of_lt later))
    have unchanged : item.mapMarks (Mark.relabel labels) = item := by
      refine item.mapMarks_eq_self fun mark member => ?_
      have age := marks mark member
      cases mark with
      | word => rfl
      | given known => simp [Mark.relabel, fixed known age]
      | read known source number => simp [Mark.relabel, fixed known age, faithful.source]
    rw [← set_relabel faithful, same, unchanged, fixed moment (Nat.le_refl moment)]

end Settings.Store

end Switchboard
