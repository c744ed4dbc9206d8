/-!
# Splitting at a separator

A list is cut at every occurrence of a separator, or at the first one only; the pieces joined with the separator
are the list again.
-/

namespace Switchboard.Text

variable {Element : Type} [DecidableEq Element]

/-- The pieces between the occurrences of a separator; always at least one. -/
def pieces (separator : Element) : List Element → List (List Element)
  | [] => [[]]
  | c :: rest =>
    if c = separator then [] :: pieces separator rest
    else
      match pieces separator rest with
      | [] => [[c]]
      | first :: others => (c :: first) :: others

/-- There is a piece, even of nothing. -/
theorem pieces_ne_nil (separator : Element) (elements : List Element) :
    pieces separator elements ≠ [] := by
  cases elements with
  | nil => simp [pieces]
  | cons c rest =>
    unfold pieces
    split
    · simp
    · split <;> simp

/-- What stands before the first occurrence of a separator, and what stands after it; none without one. -/
def splitAt? (separator : Element) : List Element → Option (List Element × List Element)
  | [] => none
  | c :: rest =>
    if c = separator then some ([], rest)
    else (splitAt? separator rest).map fun parts => (c :: parts.1, parts.2)

variable {separator : Element}

/-- What holds no separator is split off before the first one. -/
theorem splitAt?_append {before : List Element} (apart : separator ∉ before) (after : List Element) :
    splitAt? separator (before ++ separator :: after) = some (before, after) := by
  induction before with
  | nil => simp [splitAt?]
  | cons c rest ih =>
    obtain ⟨other, none⟩ : separator ≠ c ∧ separator ∉ rest := by simpa using apart
    simp [splitAt?, Ne.symm other, ih none]

/-- What is cut is cut at a separator, and none stands before it. -/
theorem eq_append_of_splitAt? {elements before after : List Element}
    (cut : splitAt? separator elements = some (before, after)) :
    elements = before ++ separator :: after ∧ separator ∉ before := by
  induction elements generalizing before with
  | nil => simp [splitAt?] at cut
  | cons c rest ih =>
    by_cases same : c = separator
    · obtain ⟨rfl, rfl⟩ : [] = before ∧ rest = after := by simpa [splitAt?, same] using cut
      simp [same]
    · obtain ⟨inner, cutRest, rfl⟩ : ∃ inner, splitAt? separator rest = some (inner, after) ∧
          c :: inner = before := by simpa [splitAt?, same] using cut
      obtain ⟨rfl, none⟩ := ih cutRest
      exact ⟨rfl, by simp [none, Ne.symm same]⟩

end Switchboard.Text
