import Switchboard.Proofs.Component.Written
import Switchboard.Selection

/-!
# The component that is chosen

Chosen is the first installed component that an entry of the allow-list names. The list matters only
through the components that it names: neither their order nor how often they are named, nor entries
that name none, change the choice, and further entries can only bring it forward
(`discover_settles`).

Entries are read, not compared with what is installed as it is written. A component whose written
form names it is never passed over where that form is listed; every other component is passed over
by a list of its written form alone (`discover_of_listed_iff`).
-/

namespace Switchboard.Selection

/-- Whether an entry names a component. -/
def Names (entries : List CodePoints) (component : Component) : Prop :=
  ∃ entry ∈ entries, Component.unflatten? entry = some component

/-- Whether a component is the first of the candidates that is named. -/
def IsFirstNamed (candidates : List Component) (entries : List CodePoints) (component : Component) :
    Prop :=
  ∃ before after, candidates = before ++ component :: after ∧ Names entries component ∧
    ∀ passed ∈ before, ¬Names entries passed

/-- Whether two lists hold the same entries in whatever order and number, apart from entries that name
no component. -/
def SameButMalformed (entries others : List CodePoints) : Prop :=
  ∀ entry, (Component.unflatten? entry).isSome → (entry ∈ entries ↔ entry ∈ others)

/-- A text as it is configured. -/
def textOf (points : CodePoints) : Value := .scalar (.ofPoints (points.map Fin.val))

/-- An allow-list of texts, as it is configured. -/
def texts (entries : List CodePoints) : Value := .list (entries.map textOf)

variable {candidates : List Component} {entries others : List CodePoints} {component : Component}

/-- What some entries name, more name. -/
theorem Names.mono (named : Names entries component) (more : ∀ entry ∈ entries, entry ∈ others) :
    Names others component := by
  obtain ⟨entry, member, reads⟩ := named
  exact ⟨entry, more entry member, reads⟩

/-- Entries that differ in malformed ones name the same components. -/
theorem SameButMalformed.names_iff (same : SameButMalformed entries others) :
    Names entries component ↔ Names others component := by
  refine exists_congr fun entry => and_congr_left fun reads => same entry ?_
  rw [reads]
  rfl

/-- What is allowed is what is named. -/
theorem contains_allowedBy :
    (allowedBy entries).contains component = true ↔ Names entries component := by
  simp [allowedBy, Names]

/-- The component that is chosen is the first that is named. -/
theorem firstAllowed_eq_some_iff :
    firstAllowed candidates entries = some component ↔
      IsFirstNamed candidates entries component := by
  simp only [firstAllowed, List.find?_eq_some_iff_append, contains_allowedBy, Bool.not_eq_true',
    ← Bool.not_eq_true, IsFirstNamed]
  constructor
  · rintro ⟨named, before, after, split, passed⟩
    exact ⟨before, after, split, named, passed⟩
  · rintro ⟨before, after, split, named, passed⟩
    exact ⟨named, before, after, split, passed⟩

/-- No component is chosen exactly where none is named. -/
theorem firstAllowed_eq_none_iff :
    firstAllowed candidates entries = none ↔
      ∀ candidate ∈ candidates, ¬Names entries candidate := by
  simp only [firstAllowed, List.find?_eq_none, contains_allowedBy]

/-- The choice depends on the entries through what they name. -/
theorem firstAllowed_congr
    (same : ∀ component, Names entries component ↔ Names others component) :
    firstAllowed candidates entries = firstAllowed candidates others := by
  unfold firstAllowed
  congr 1
  funext candidate
  rw [Bool.eq_iff_iff, contains_allowedBy, contains_allowedBy, same]

/-- Where a candidate is named, one is chosen that stands no later. -/
theorem exists_firstAllowed_of_names (member : component ∈ candidates)
    (named : Names entries component) :
    ∃ chosen, firstAllowed candidates entries = some chosen ∧
      candidates.idxOf chosen ≤ candidates.idxOf component := by
  induction candidates with
  | nil => simp at member
  | cons first rest ih =>
    by_cases firstNamed : Names entries first
    · refine ⟨first, ?_, by simp⟩
      exact firstAllowed_eq_some_iff.mpr ⟨[], rest, rfl, firstNamed, by simp⟩
    · have later : first ≠ component := fun same => firstNamed (same ▸ named)
      obtain ⟨chosen, isChosen, noLater⟩ := ih ((List.mem_cons.mp member).resolve_left later.symm)
      obtain ⟨before, after, split, chosenNamed, passed⟩ := firstAllowed_eq_some_iff.mp isChosen
      have apart : first ≠ chosen := fun same => firstNamed (same ▸ chosenNamed)
      refine ⟨chosen, firstAllowed_eq_some_iff.mpr ⟨first :: before, after, ?_, chosenNamed, ?_⟩, ?_⟩
      · rw [split, List.cons_append]
      · exact List.forall_mem_cons.mpr ⟨firstNamed, passed⟩
      · simpa [List.idxOf_cons, beq_false_of_ne later, beq_false_of_ne apart] using noLater

/-- The code points of the text of code points, where none of them is a half. -/
theorem ofText_ofPoints {points : CodePoints}
    (plain : ∀ point ∈ points, Text.isHalf point = false) :
    CodePoints.ofText (Text.ofPoints (points.map Fin.val)) = points := by
  rw [CodePoints.ofText, Text.ofPoints, String.toList_ofList, List.map_map, List.map_map]
  refine (List.map_congr_left fun point member => ?_).trans (List.map_id points)
  have half := plain point member
  have valid : (point : Nat).isValidChar := by
    simp only [Text.isHalf, Bool.and_eq_false_iff, decide_eq_false_iff_not] at half
    have bound := point.isLt
    unfold Nat.isValidChar
    omega
  refine Fin.ext ?_
  simp only [CodePoint.ofChar, Text.charAt, half, Function.comp_apply]
  rw [if_neg Bool.false_ne_true, Char.ofNat, dif_pos valid]
  rfl

/-- What is configured as a text is read as this text, with or without halves. -/
theorem entryText_textOf (points : CodePoints) : entryText (textOf points) = .ok points := by
  unfold textOf Scalar.ofPoints
  by_cases half : (points.map Fin.val).any Text.isHalf = true
  · rw [if_pos half]
    have same : (points.map Fin.val).map (Fin.ofNat _) = points := by
      rw [List.map_map]
      exact (List.map_congr_left fun point _ => Fin.ofNat_val_eq_self point).trans (List.map_id points)
    exact congrArg Except.ok same
  · rw [if_neg half]
    have plain : ∀ point ∈ points, Text.isHalf point = false := by
      simpa using half
    exact congrArg Except.ok (ofText_ofPoints plain)

/-- An allow-list of texts is read entry by entry. -/
theorem entryTexts_textOf (entries : List CodePoints) :
    entryTexts (entries.map textOf) = .ok entries := by
  induction entries with
  | nil => rfl
  | cons entry rest ih =>
    simp [entryTexts, entryText_textOf, ih, bind, Except.bind, pure, Except.pure]

/-- By entries that are texts, the first installed component that they allow is chosen. -/
theorem choose_texts (installed : Installed) (role : Role) (entries : List CodePoints) :
    choose installed role (texts entries) =
      .ok (firstAllowed (installed.offering role.capability) entries) := by
  simp [choose, allowList, texts, entryTexts_textOf, Except.map]

/-- The installed components that can take a role are asked for once, and chosen is the first of them
that an entry names, or none where no entry names one. The choice is the same for every list of the
same entries, in whatever order and number, and whatever else it holds that names nothing; and it does
not get lost nor move further back where entries are added. -/
theorem discover_settles (installed : Installed) (role : Role) (entries : List CodePoints) :
    let candidates := installed.offering role.capability
    let outcome (entries : List CodePoints) := discover installed role (texts entries)
    (outcome entries).trace = [.sent (.queried role.capability)] ∧
    (∃ chosen, (outcome entries).result = .ok chosen ∧
      (∀ component, chosen = some component ↔ IsFirstNamed candidates entries component) ∧
      (chosen = none ↔ ∀ candidate ∈ candidates, ¬Names entries candidate)) ∧
    (∀ others, SameButMalformed entries others → outcome others = outcome entries) ∧
    ∀ others, (∀ entry ∈ entries, entry ∈ others) →
      ∀ component, (outcome entries).result = .ok (some component) →
        ∃ earlier, (outcome others).result = .ok (some earlier) ∧
          candidates.idxOf earlier ≤ candidates.idxOf component := by
  intro candidates outcome
  have result (entries : List CodePoints) :
      (outcome entries).result = .ok (firstAllowed candidates entries) :=
    choose_texts installed role entries
  refine ⟨trace_discover .., ?first, ?same, ?more⟩
  case first =>
    exact ⟨_, result entries, fun _ => firstAllowed_eq_some_iff, firstAllowed_eq_none_iff⟩
  case same =>
    intro others same
    have chosen : choose installed role (texts others) = choose installed role (texts entries) := by
      rw [choose_texts, choose_texts, firstAllowed_congr fun _ => same.names_iff]
    simp only [outcome, discover, chosen]
  case more =>
    intro others more component isChosen
    rw [result, Except.ok.injEq] at isChosen
    obtain ⟨before, after, split, named, -⟩ := firstAllowed_eq_some_iff.mp isChosen
    have member : component ∈ candidates := by simp [split]
    obtain ⟨earlier, isEarlier, noLater⟩ := exists_firstAllowed_of_names member (named.mono more)
    exact ⟨earlier, (result others).trans (congrArg Except.ok isEarlier), noLater⟩

/-- Where nothing else is installed and nothing else is listed than a component as it is written, what is
chosen is this component, if its written form names it. -/
theorem firstAllowed_alone_eq_some_iff {component chosen : Component} :
    firstAllowed [component] [component.flatten] = some chosen ↔
      chosen = component ∧ component.IsPlain := by
  have names : Names [component.flatten] component ↔ component.IsPlain := by
    rw [← Component.unflatten?_flatten_eq_some_iff]
    simp [Names]
  rw [firstAllowed_eq_some_iff, ← names]
  constructor
  · rintro ⟨before, after, split, named, -⟩
    have member : chosen ∈ [component] := by simp [split]
    obtain rfl := List.mem_singleton.mp member
    exact ⟨rfl, named⟩
  · rintro ⟨rfl, named⟩
    exact ⟨[], [], rfl, named, by simp⟩

/-- A component is never passed over where its written form is listed, if this form names it; and only
then: any other component is passed over where it is the only one installed and its written form the only
entry. -/
theorem discover_of_listed_iff (role : Role) (component : Component) :
    ((∀ (installed : Installed) (entries : List CodePoints),
      component ∈ installed.offering role.capability → component.flatten ∈ entries →
        ∃ chosen, (discover installed role (texts entries)).result = .ok (some chosen) ∧
          (installed.offering role.capability).idxOf chosen ≤
            (installed.offering role.capability).idxOf component) ↔
      component.IsPlain) ∧
    (¬component.IsPlain →
      (discover [(role.capability, [component])] role (texts [component.flatten])).result =
        .ok none) := by
  have offered : Installed.offering [(role.capability, [component])] role.capability =
      [component] := by
    simp [Installed.offering, Entries.get?]
  simp only [result_discover, choose_texts, Except.ok.injEq, offered]
  constructor
  · constructor
    · intro neverPassed
      obtain ⟨chosen, isChosen, -⟩ := neverPassed [(role.capability, [component])]
        [component.flatten] (by simp [offered]) (by simp)
      rw [offered] at isChosen
      exact (firstAllowed_alone_eq_some_iff.mp isChosen).2
    · intro plain installed entries member listed
      exact exists_firstAllowed_of_names member
        ⟨component.flatten, listed, Component.unflatten?_flatten_eq_some_iff.mpr plain⟩
  · intro lossy
    rw [Option.eq_none_iff_forall_ne_some]
    intro chosen isChosen
    exact lossy (firstAllowed_alone_eq_some_iff.mp isChosen).2

/-- A class that starts with a point is listed as it is written, and the only component installed, and
yet passed over: the entry is read as the class of that name in the package. -/
theorem discover_passes_relative :
    Component.flatten ⟨"p", ".C"⟩ ∈ [CodePoints.ofText "p/.C"] ∧
      (discover [(Role.dialer.capability, [⟨"p", ".C"⟩])] .dialer (texts ["p/.C"])).result =
        .ok none :=
  ⟨by decide, by rfl⟩

end Switchboard.Selection
