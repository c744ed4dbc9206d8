import Switchboard.Proofs.Settings.Placing

/-!
# Settings that are written path by path

A write into plain settings puts a value at the end of its path, makes maps on the way there, and leaves
what stands elsewhere (`Section.at?_write`). Settings that are written at paths of which none goes on from
another hold what was written, in the maps that lead there, and nothing else (`Section.Holds.write`).
-/

namespace Switchboard

/-- Only a text is the same key as a text. -/
theorem Scalar.text_beq_iff {characters : String} {key : Scalar} :
    ((Scalar.text characters) == key) = true ↔ key = .text characters := by
  rw [beq_iff]
  cases key with
  | text other => simp [identity, eq_comm]
  | float number =>
    simp only [identity]
    split
    · simp
    · split <;> simp [Identity.ofFraction]
  | moment time =>
    simp only [identity]
    split <;> simp
  | _ => simp [identity]

namespace Value

variable {value : Value} {path rest : List Scalar}

/-- A path after another leads on from what this one leads to. -/
theorem at?_append : value.at? (path ++ rest) = (value.at? path).bind (·.at? rest) := by
  induction path generalizing value with
  | nil => simp [at?]
  | cons key others ih =>
    cases value with
    | map entries => cases found : Entries.get? key entries <;> simp [at?, found, ih]
    | _ => rfl

/-- Only in a map something is found. -/
theorem exists_map_of_at? {item : Value} (nonempty : path ≠ []) (found : value.at? path = some item) :
    ∃ entries, value = .map entries := by
  cases path with
  | nil => contradiction
  | cons key others =>
    cases value with
    | map entries => exact ⟨entries, rfl⟩
    | _ => simp [at?] at found

/-- No key leads on from what is no map. -/
theorem at?_of_not_map (nonempty : path ≠ []) (noMap : ∀ entries, value ≠ .map entries) :
    value.at? path = none := by
  cases found : value.at? path with
  | none => rfl
  | some item =>
    obtain ⟨entries, isMap⟩ := exists_map_of_at? nonempty found
    exact absurd isMap (noMap entries)

end Value

namespace Section

variable {settings : Section} {path other : List Scalar} {item : Value}

/-- A path leads on from what is under its first key. -/
theorem at?_cons (settings : Section) (key : Scalar) (rest : List Scalar) :
    settings.at? (key :: rest) = (Entries.get? key settings).bind (·.at? rest) := by
  cases found : Entries.get? key settings <;> simp [at?, Value.at?, found]

/-- What stands in the map under a key stands behind that key. -/
theorem at?_below (settings : Section) (key : Scalar) (nonempty : path ≠ []) :
    (below key settings).at? path = settings.at? (key :: path) := by
  obtain ⟨next, rest, rfl⟩ := List.exists_cons_of_ne_nil nonempty
  rw [at?_cons settings, below]
  cases found : Entries.get? key settings with
  | none => rfl
  | some inner => cases inner <;> rfl

/-- A write changes what stands under the first key of its path. -/
theorem write_cons (settings : Section) (key : Scalar) (rest : List Scalar) (item : Value) :
    settings.write (key :: rest) item = Entries.put key
      (if rest = [] then item else .map ((below key settings).write rest item)) settings := by
  cases rest with
  | nil => rfl
  | cons next others => simp [write]

/-- What was written at a path is found there. -/
theorem at?_write_self (settings : Section) (nonempty : path ≠ []) (item : Value) :
    (settings.write path item).at? path = some item := by
  induction path generalizing settings with
  | nil => contradiction
  | cons key rest ih =>
    rw [write_cons, at?_cons, Entries.get?_put_self, Option.bind_some]
    split
    next last => rw [last, Value.at?]
    next more => exact ih (below key settings) more

/-- What stands elsewhere stays. -/
theorem at?_write_of_apart (settings : Section) (noFront : ¬path <+: other)
    (notLonger : ¬other <+: path) (texts : ∀ key ∈ path, ∃ characters, key = .text characters)
    (item : Value) : (settings.write path item).at? other = settings.at? other := by
  induction path generalizing settings other with
  | nil => exact absurd List.nil_prefix noFront
  | cons key rest ih =>
    cases other with
    | nil => exact absurd List.nil_prefix notLonger
    | cons otherKey tail =>
      obtain ⟨⟨characters, rfl⟩, others⟩ := List.forall_mem_cons.mp texts
      by_cases same : otherKey = .text characters
      · subst same
        have restApart : ¬rest <+: tail := fun isFront =>
          noFront (List.cons_prefix_cons.mpr ⟨rfl, isFront⟩)
        have tailApart : ¬tail <+: rest := fun isFront =>
          notLonger (List.cons_prefix_cons.mpr ⟨rfl, isFront⟩)
        have more : rest ≠ [] := fun last => restApart (last ▸ List.nil_prefix)
        have further : tail ≠ [] := fun last => tailApart (last ▸ List.nil_prefix)
        rw [write_cons, if_neg more, at?_cons, Entries.get?_put_self, Option.bind_some]
        exact (ih (below _ settings) restApart tailApart others).trans (at?_below settings _ further)
      · have different : (Scalar.text characters == otherKey) = false := by
          rw [Bool.eq_false_iff]
          exact fun equal => same (Scalar.text_beq_iff.mp equal)
        rw [write_cons, at?_cons, at?_cons, Entries.get?_put, different, if_neg Bool.false_ne_true]

/-- A write puts a value where its path ends, makes the maps on the way, and leaves the rest. -/
theorem at?_write (settings : Section) (nonempty : path ≠ [])
    (texts : ∀ key ∈ path, ∃ characters, key = .text characters)
    (noMap : ∀ entries, item ≠ .map entries) (other : List Scalar) :
    (other = path ∧ (settings.write path item).at? other = some item) ∨
    (other ≠ path ∧ other <+: path ∧
      ∃ entries, (settings.write path item).at? other = some (.map entries)) ∨
    (other ≠ path ∧ path <+: other ∧ (settings.write path item).at? other = none) ∨
    (¬other <+: path ∧ ¬path <+: other ∧
      (settings.write path item).at? other = settings.at? other) := by
  have written := at?_write_self settings nonempty item
  by_cases same : other = path
  · exact .inl ⟨same, same ▸ written⟩
  by_cases isFront : other <+: path
  · obtain ⟨rest, rfl⟩ := isFront
    have more : rest ≠ [] := by simpa using same
    refine .inr (.inl ⟨same, List.prefix_append .., ?_⟩)
    rw [at?, Value.at?_append] at written
    obtain ⟨found, here, below⟩ := Option.bind_eq_some_iff.mp written
    obtain ⟨entries, rfl⟩ := Value.exists_map_of_at? more below
    exact ⟨entries, here⟩
  by_cases longer : path <+: other
  · obtain ⟨rest, rfl⟩ := longer
    have more : rest ≠ [] := by simpa using same
    refine .inr (.inr (.inl ⟨same, List.prefix_append .., ?_⟩))
    rw [at?] at written
    rw [at?, Value.at?_append, written, Option.bind_some, Value.at?_of_not_map more noMap]
  · exact .inr (.inr (.inr ⟨isFront, longer, at?_write_of_apart settings longer isFront texts item⟩))

/-- Whether settings hold what was written at some paths, in maps that lead there, and nothing else. -/
structure Holds (settings : Section) (written : List Scalar → Value → Prop) : Prop where
  values : ∀ path value, (∀ entries, value ≠ .map entries) →
    (settings.at? path = some value ↔ written path value)
  leading : ∀ path, (settings.at? path).isSome = true ↔
    path = [] ∨ ∃ whole value, written whole value ∧ path <+: whole

/-- What is held depends only on what was written where. -/
theorem Holds.congr {written others : List Scalar → Value → Prop} (holds : settings.Holds written)
    (same : ∀ path value, others path value ↔ written path value) : settings.Holds others := by
  obtain rfl : others = written := funext fun path => funext fun value => propext (same path value)
  exact holds

/-- Nothing is held where nothing was written. -/
theorem holds_nil : Holds [] fun _ _ => False where
  values path value noMap := by
    cases path with
    | nil => simp [at?, Value.at?, (noMap []).symm]
    | cons key rest => simp [at?_cons]
  leading path := by
    cases path with
    | nil => simp [at?, Value.at?]
    | cons key rest => simp [at?_cons]

/-- A write at a path of its own adds to what is held. -/
theorem Holds.write {written : List Scalar → Value → Prop} (holds : settings.Holds written)
    (nonempty : path ≠ []) (texts : ∀ key ∈ path, ∃ characters, key = .text characters)
    (noMap : ∀ entries, item ≠ .map entries)
    (apart : ∀ other value, written other value → ¬other <+: path ∧ ¬path <+: other) :
    (settings.write path item).Holds fun other value =>
      written other value ∨ other = path ∧ value = item where
  values other value valueNoMap := by
    have unwritten (near : other <+: path ∨ path <+: other) : ¬written other value :=
      fun isWritten => near.elim (apart other value isWritten).1 (apart other value isWritten).2
    rcases at?_write settings nonempty texts noMap other with
      ⟨rfl, here⟩ | ⟨different, isFront, entries, here⟩ | ⟨different, longer, here⟩ |
        ⟨isFront, longer, here⟩
    · simp [here, unwritten (.inl List.prefix_rfl), eq_comm]
    · simp [here, unwritten (.inl isFront), different, (valueNoMap entries).symm]
    · simp [here, unwritten (.inr longer), different]
    · have different : other ≠ path := fun same => isFront (same ▸ List.prefix_rfl)
      simp [here, different, holds.values other value valueNoMap]
  leading other := by
    have whole : other <+: path → other = [] ∨ ∃ whole value,
        (written whole value ∨ whole = path ∧ value = item) ∧ other <+: whole := fun isFront =>
      .inr ⟨path, item, .inr ⟨rfl, rfl⟩, isFront⟩
    rcases at?_write settings nonempty texts noMap other with
      ⟨same, here⟩ | ⟨-, isFront, entries, here⟩ | ⟨different, longer, here⟩ | ⟨notFront, longer, here⟩
    · simp only [here, Option.isSome_some, true_iff]
      exact whole (same ▸ List.prefix_rfl)
    · simp only [here, Option.isSome_some, true_iff]
      exact whole isFront
    · simp only [here, Option.isSome_none, Bool.false_eq_true, false_iff]
      rintro (rfl | ⟨found, value, isWritten | ⟨rfl, -⟩, isFront⟩)
      · exact nonempty (List.prefix_nil.mp longer)
      · exact (apart found value isWritten).2 (longer.trans isFront)
      · exact different (isFront.eq_of_length_le longer.length_le)
    · rw [here, holds.leading other]
      refine or_congr_right ⟨?_, ?_⟩
      · rintro ⟨found, value, isWritten, isFront⟩
        exact ⟨found, value, .inl isWritten, isFront⟩
      · rintro ⟨found, value, isWritten | ⟨rfl, -⟩, isFront⟩
        · exact ⟨found, value, isWritten, isFront⟩
        · exact absurd isFront notFront

end Section

end Switchboard
