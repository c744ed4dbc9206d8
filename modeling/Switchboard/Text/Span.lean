/-!
# Sets of code points

A set of characters given by the ascending spans of its code points, both ends included.
-/

namespace Switchboard.Text

/-- Whether a code point lies in one of the spans, which are ascending and do not overlap. -/
def covers : List (Nat × Nat) → Nat → Bool
  | [], _ => false
  | (low, high) :: rest, point =>
    if point < low then false else if point ≤ high then true else covers rest point

variable {spans : List (Nat × Nat)} {span : Nat × Nat} {floor point : Nat}

/-- What is covered lies in a span. -/
theorem exists_span_of_covers (covered : covers spans point = true) :
    ∃ span ∈ spans, span.1 ≤ point ∧ point ≤ span.2 := by
  induction spans with
  | nil => simp [covers] at covered
  | cons span rest ih =>
    obtain ⟨low, high⟩ := span
    unfold covers at covered
    split at covered
    · contradiction
    next above =>
      split at covered
      next below => exact ⟨(low, high), List.mem_cons_self, Nat.le_of_not_lt above, below⟩
      · obtain ⟨span, member, bounds⟩ := ih covered
        exact ⟨span, List.mem_cons_of_mem _ member, bounds⟩

/-- Whether spans ascend from a code point on, and do not overlap. -/
def ascendFrom : Nat → List (Nat × Nat) → Bool
  | _, [] => true
  | floor, (low, high) :: rest => floor ≤ low && low ≤ high && ascendFrom (high + 1) rest

/-- Spans that ascend from a floor lie above it. -/
theorem floor_le_of_mem (ascending : ascendFrom floor spans = true) (member : span ∈ spans) :
    floor ≤ span.1 := by
  induction spans generalizing floor with
  | nil => simp at member
  | cons first rest ih =>
    obtain ⟨low, high⟩ := first
    simp only [ascendFrom, Bool.and_eq_true, decide_eq_true_eq] at ascending
    obtain ⟨⟨fromFloor, ordered⟩, others⟩ := ascending
    rcases List.mem_cons.mp member with rfl | later
    · exact fromFloor
    · have above := ih others later
      omega

/-- What lies in one of the spans is covered by them, where they ascend. -/
theorem covers_of_mem (ascending : ascendFrom floor spans = true) (member : span ∈ spans)
    (low : span.1 ≤ point) (high : point ≤ span.2) : covers spans point = true := by
  induction spans generalizing floor with
  | nil => simp at member
  | cons first rest ih =>
    obtain ⟨start, last⟩ := first
    simp only [ascendFrom, Bool.and_eq_true, decide_eq_true_eq] at ascending
    obtain ⟨⟨-, ordered⟩, others⟩ := ascending
    unfold covers
    rcases List.mem_cons.mp member with rfl | later
    · rw [if_neg (Nat.not_lt.mpr low), if_pos high]
    · have above := floor_le_of_mem others later
      rw [if_neg (by omega), if_neg (by omega)]
      exact ih others later

end Switchboard.Text
