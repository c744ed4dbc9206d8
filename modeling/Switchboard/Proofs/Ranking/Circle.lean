import Switchboard.Proofs.Ranking.Arrangement
import Switchboard.Proofs.Ranking.Comparison

/-!
# Circles of accounts

The slot is asked only where both accounts have a valid subscription, so an account without one
can stand between two accounts with one by the tail of the comparison, while their slots put them
the other way round. Each of the three then precedes the next and the last precedes the first.
There is no other way in which the comparison fails to be transitive: the accounts of a list are
in order exactly when no three of them form such a circle.
-/

namespace Switchboard.Ranking

open Std

variable {subscriptions : Subscriptions}

/-- Whether an account has a valid subscription. -/
def Resolved (subscriptions : Subscriptions) (account : Account) : Prop :=
  (subscriptions.ofAccount account).isValid = true

/-- It is decided whether an account has a subscription. -/
instance (subscriptions : Subscriptions) : DecidablePred (Resolved subscriptions) :=
  fun account => inferInstanceAs (Decidable ((subscriptions.ofAccount account).isValid = true))

/-- The slot of the subscription of an account. -/
def slot (subscriptions : Subscriptions) (account : Account) : Int :=
  (subscriptions.ofAccount account).slot

/-- Three accounts that all have a card or all lack one. The tail leads from the first over the
second to the third; the slots, which the second does not have, lead from the third to the
first. -/
structure Circle (subscriptions : Subscriptions) (first second third : Account) : Prop where
  former : first.has .simSubscription = second.has .simSubscription
  latter : second.has .simSubscription = third.has .simSubscription
  first_resolved : Resolved subscriptions first
  second_unresolved : ¬ Resolved subscriptions second
  third_resolved : Resolved subscriptions third
  slots : slot subscriptions third < slot subscriptions first
  former_tail : compareTail first second = .lt
  latter_tail : compareTail second third = .lt

/-- It is decided whether three accounts form a circle. -/
instance (first second third : Account) : Decidable (Circle subscriptions first second third) :=
  decidable_of_iff
    (first.has .simSubscription = second.has .simSubscription ∧
      second.has .simSubscription = third.has .simSubscription ∧
      Resolved subscriptions first ∧ ¬ Resolved subscriptions second ∧
      Resolved subscriptions third ∧ slot subscriptions third < slot subscriptions first ∧
      compareTail first second = .lt ∧ compareTail second third = .lt)
    ⟨fun ⟨former, latter, firstResolved, secondUnresolved, thirdResolved, slots, tail, next⟩ =>
      ⟨former, latter, firstResolved, secondUnresolved, thirdResolved, slots, tail, next⟩,
    fun circle =>
      ⟨circle.former, circle.latter, circle.first_resolved, circle.second_unresolved,
        circle.third_resolved, circle.slots, circle.former_tail, circle.latter_tail⟩⟩

/-- Whether three of some accounts form a circle. -/
def HoldsCircle (subscriptions : Subscriptions) (accounts : List Account) : Prop :=
  ∃ first ∈ accounts, ∃ second ∈ accounts, ∃ third ∈ accounts,
    Circle subscriptions first second third

/-- It is decided whether some accounts hold a circle. -/
instance (accounts : List Account) : Decidable (HoldsCircle subscriptions accounts) :=
  inferInstanceAs (Decidable (∃ first ∈ accounts, ∃ second ∈ accounts, ∃ third ∈ accounts,
    Circle subscriptions first second third))

/-- Whether accounts that agree on having a card agree on having a valid subscription. -/
def Uniform (subscriptions : Subscriptions) (accounts : List Account) : Prop :=
  ∀ first ∈ accounts, ∀ second ∈ accounts,
    first.has .simSubscription = second.has .simSubscription →
      (Resolved subscriptions first ↔ Resolved subscriptions second)

/-- Where subscriptions are known for all alike or for none, no accounts form a circle. -/
theorem not_holdsCircle_of_uniform {accounts : List Account}
    (uniform : Uniform subscriptions accounts) : ¬ HoldsCircle subscriptions accounts := by
  rintro ⟨first, isFirst, second, isSecond, third, _, circle⟩
  have resolved := (uniform first isFirst second isSecond circle.former).mp circle.first_resolved
  exact circle.second_unresolved resolved

/-- An account with a card precedes one without. -/
theorem goesBefore_of_sim {left right : Account} (has : left.has .simSubscription = true)
    (lacks : right.has .simSubscription = false) : goesBefore subscriptions left right = true := by
  have apart : compareSim left right = .lt := by
    simp only [compareSim, has, lacks]
    decide
  rw [goesBefore_iff, ordering, apart]
  rfl

/-- What precedes an account with a card has one too. -/
theorem sim_of_goesBefore {left right : Account} (before : goesBefore subscriptions left right = true)
    (has : right.has .simSubscription = true) : left.has .simSubscription = true := by
  by_contra lacks
  have behind : goesBefore subscriptions right left = true :=
    goesBefore_of_sim has (Bool.eq_false_iff.mpr lacks)
  have stays := goesBefore_asymmetric subscriptions _ _ behind
  simp [before] at stays

section Agreeing

variable {left right : Account} (agree : left.has .simSubscription = right.has .simSubscription)
include agree

/-- Among accounts that agree on having a card, the tail decides where the slot is not asked. -/
theorem goesBefore_iff_tail
    (unresolved : ¬ (Resolved subscriptions left ∧ Resolved subscriptions right)) :
    goesBefore subscriptions left right = true ↔ compareTail left right = .lt := by
  have sims : compareSim left right = .eq := by simp [compareSim, agree]
  have slots : compareSlot subscriptions left right = .eq := by
    simp only [Resolved, ← Bool.and_eq_true, Bool.not_eq_true] at unresolved
    simp [compareSlot, unresolved]
  rw [goesBefore_iff, ordering, sims, slots]
  rfl

/-- Among accounts that agree on having a card, the slot decides where both have one, and the tail
where their slots are the same. -/
theorem goesBefore_iff_slot (leftResolved : Resolved subscriptions left)
    (rightResolved : Resolved subscriptions right) :
    goesBefore subscriptions left right = true ↔
      slot subscriptions left < slot subscriptions right ∨
        slot subscriptions left = slot subscriptions right ∧ compareTail left right = .lt := by
  have sims : compareSim left right = .eq := by simp [compareSim, agree]
  have slots : compareSlot subscriptions left right =
      compare (slot subscriptions left) (slot subscriptions right) := by
    rw [Resolved] at leftResolved rightResolved
    simp [compareSlot, slot, leftResolved, rightResolved]
  rw [goesBefore_iff, ordering, sims, slots, Ordering.eq_then, Ordering.then_eq_lt,
    Int.compare_eq_lt, Int.compare_eq_eq]

end Agreeing

/-- Of two different accounts the tail puts one first. -/
theorem tail_of_not_tail {left right : Account} (different : left ≠ right)
    (refused : compareTail left right ≠ .lt) : compareTail right left = .lt := by
  have swapped : compareTail right left = (compareTail left right).swap := OrientedCmp.eq_swap
  cases outcome : compareTail left right with
  | lt => exact absurd outcome refused
  | eq => exact absurd (LawfulEqCmp.eq_of_compare outcome) different
  | gt => rw [swapped, outcome, Ordering.swap_gt]

/-- Going round a circle, each account precedes the next, and the last the first. -/
theorem Circle.goesBefore {first second third : Account}
    (circle : Circle subscriptions first second third) :
    goesBefore subscriptions first second = true ∧ goesBefore subscriptions second third = true ∧
      goesBefore subscriptions third first = true := by
  have whole : third.has .simSubscription = first.has .simSubscription :=
    (circle.former.trans circle.latter).symm
  refine ⟨?_, ?_, ?_⟩
  · rw [goesBefore_iff_tail circle.former fun both => circle.second_unresolved both.2]
    exact circle.former_tail
  · rw [goesBefore_iff_tail circle.latter fun both => circle.second_unresolved both.1]
    exact circle.latter_tail
  · rw [goesBefore_iff_slot whole circle.third_resolved circle.first_resolved]
    exact .inl circle.slots

section Transitivity

variable {first second third : Account}
  (former : first.has .simSubscription = second.has .simSubscription)
  (latter : second.has .simSubscription = third.has .simSubscription)
  (isBefore : goesBefore subscriptions first second = true)
  (isNext : goesBefore subscriptions second third = true)

include former latter isBefore isNext

/-- Among accounts with a subscription the comparison is an order on its own. -/
theorem goesBefore_trans_of_resolved (firstResolved : Resolved subscriptions first)
    (secondResolved : Resolved subscriptions second)
    (thirdResolved : Resolved subscriptions third) : goesBefore subscriptions first third = true := by
  rw [goesBefore_iff_slot former firstResolved secondResolved] at isBefore
  rw [goesBefore_iff_slot latter secondResolved thirdResolved] at isNext
  rw [goesBefore_iff_slot (former.trans latter) firstResolved thirdResolved]
  rcases isBefore with lower | ⟨same, tail⟩ <;> rcases isNext with nextLower | ⟨nextSame, nextTail⟩
  · exact .inl (Int.lt_trans lower nextLower)
  · exact .inl (nextSame ▸ lower)
  · exact .inl (same ▸ nextLower)
  · exact .inr ⟨same.trans nextSame, TransCmp.lt_trans tail nextTail⟩

/-- An account without a subscription that stands behind the latter of two with one stands behind
the former as well: if it stood in front of that, the slots would close a circle. -/
theorem goesBefore_trans_of_third_unresolved (firstResolved : Resolved subscriptions first)
    (secondResolved : Resolved subscriptions second)
    (thirdUnresolved : ¬ Resolved subscriptions third)
    (round : ¬ Circle subscriptions second third first) :
    goesBefore subscriptions first third = true := by
  have whole := former.trans latter
  rw [goesBefore_iff_slot former firstResolved secondResolved] at isBefore
  rw [goesBefore_iff_tail latter fun both => thirdUnresolved both.2] at isNext
  rw [goesBefore_iff_tail whole fun both => thirdUnresolved both.2]
  rcases isBefore with lower | ⟨_, tail⟩
  · by_contra refused
    have different : first ≠ third := fun same => thirdUnresolved (same ▸ firstResolved)
    have back := tail_of_not_tail different refused
    exact round ⟨latter, whole.symm, secondResolved, thirdUnresolved, firstResolved, lower, isNext,
      back⟩
  · exact TransCmp.lt_trans tail isNext

/-- An account without a subscription that stands in front of the former of two with one stands in
front of the latter as well. -/
theorem goesBefore_trans_of_first_unresolved (firstUnresolved : ¬ Resolved subscriptions first)
    (secondResolved : Resolved subscriptions second)
    (thirdResolved : Resolved subscriptions third)
    (round : ¬ Circle subscriptions third first second) :
    goesBefore subscriptions first third = true := by
  have whole := former.trans latter
  rw [goesBefore_iff_tail former fun both => firstUnresolved both.1] at isBefore
  rw [goesBefore_iff_slot latter secondResolved thirdResolved] at isNext
  rw [goesBefore_iff_tail whole fun both => firstUnresolved both.1]
  rcases isNext with lower | ⟨_, tail⟩
  · by_contra refused
    have different : first ≠ third := fun same => firstUnresolved (same ▸ thirdResolved)
    have back := tail_of_not_tail different refused
    exact round ⟨whole.symm, former, thirdResolved, firstUnresolved, secondResolved, lower, back,
      isBefore⟩
  · exact TransCmp.lt_trans isBefore tail

/-- Two accounts with a subscription stand as an account between them without one says. -/
theorem goesBefore_trans_of_second_unresolved (firstResolved : Resolved subscriptions first)
    (secondUnresolved : ¬ Resolved subscriptions second)
    (thirdResolved : Resolved subscriptions third)
    (round : ¬ Circle subscriptions first second third) :
    goesBefore subscriptions first third = true := by
  rw [goesBefore_iff_tail former fun both => secondUnresolved both.2] at isBefore
  rw [goesBefore_iff_tail latter fun both => secondUnresolved both.1] at isNext
  rw [goesBefore_iff_slot (former.trans latter) firstResolved thirdResolved]
  rcases Int.lt_trichotomy (slot subscriptions first) (slot subscriptions third) with
    lower | same | higher
  · exact .inl lower
  · exact .inr ⟨same, TransCmp.lt_trans isBefore isNext⟩
  · exact absurd ⟨former, latter, firstResolved, secondUnresolved, thirdResolved, higher, isBefore,
      isNext⟩ round

/-- Where no two accounts have a subscription, the tail decides all along. -/
theorem goesBefore_trans_of_unasked
    (formerUnasked : ¬ (Resolved subscriptions first ∧ Resolved subscriptions second))
    (latterUnasked : ¬ (Resolved subscriptions second ∧ Resolved subscriptions third))
    (wholeUnasked : ¬ (Resolved subscriptions first ∧ Resolved subscriptions third)) :
    goesBefore subscriptions first third = true := by
  rw [goesBefore_iff_tail former formerUnasked] at isBefore
  rw [goesBefore_iff_tail latter latterUnasked] at isNext
  rw [goesBefore_iff_tail (former.trans latter) wholeUnasked]
  exact TransCmp.lt_trans isBefore isNext

/-- Where no three of them form a circle, the comparison is transitive among accounts that agree on
having a card. The cases are by which of the three have a valid subscription. -/
theorem goesBefore_trans_of_agree (between : ¬ Circle subscriptions first second third)
    (behind : ¬ Circle subscriptions second third first)
    (ahead : ¬ Circle subscriptions third first second) :
    goesBefore subscriptions first third = true := by
  by_cases formerAsked : Resolved subscriptions first ∧ Resolved subscriptions second
  · obtain ⟨firstResolved, secondResolved⟩ := formerAsked
    by_cases thirdResolved : Resolved subscriptions third
    · exact goesBefore_trans_of_resolved former latter isBefore isNext firstResolved secondResolved
        thirdResolved
    · exact goesBefore_trans_of_third_unresolved former latter isBefore isNext firstResolved
        secondResolved thirdResolved behind
  · by_cases latterAsked : Resolved subscriptions second ∧ Resolved subscriptions third
    · obtain ⟨secondResolved, thirdResolved⟩ := latterAsked
      have firstUnresolved : ¬ Resolved subscriptions first :=
        fun firstResolved => formerAsked ⟨firstResolved, secondResolved⟩
      exact goesBefore_trans_of_first_unresolved former latter isBefore isNext firstUnresolved
        secondResolved thirdResolved ahead
    · by_cases wholeAsked : Resolved subscriptions first ∧ Resolved subscriptions third
      · obtain ⟨firstResolved, thirdResolved⟩ := wholeAsked
        have secondUnresolved : ¬ Resolved subscriptions second :=
          fun secondResolved => formerAsked ⟨firstResolved, secondResolved⟩
        exact goesBefore_trans_of_second_unresolved former latter isBefore isNext firstResolved
          secondUnresolved thirdResolved between
      · exact goesBefore_trans_of_unasked former latter isBefore isNext formerAsked latterAsked
          wholeAsked

end Transitivity

/-- The comparison of accounts is transitive exactly where no three accounts form a circle.
Accounts that do not agree on having a card are in order by the card alone. -/
theorem transitiveOn_goesBefore_iff (subscriptions : Subscriptions) (accounts : List Account) :
    TransitiveOn (goesBefore subscriptions) accounts ↔ ¬ HoldsCircle subscriptions accounts := by
  constructor
  · rintro transitive ⟨first, isFirst, second, isSecond, third, isThird, circle⟩
    obtain ⟨former, latter, round⟩ := circle.goesBefore
    have whole := transitive first isFirst second isSecond third isThird former latter
    have stays := goesBefore_asymmetric subscriptions third first round
    simp [whole] at stays
  · intro none first isFirst second isSecond third isThird former latter
    have thirdHas := sim_of_goesBefore latter
    have secondHas := sim_of_goesBefore former
    by_cases agree : first.has .simSubscription = third.has .simSubscription
    · have middle : first.has .simSubscription = second.has .simSubscription := by
        cases has : second.has .simSubscription with
        | true => exact secondHas has
        | false =>
          have thirdLacks : third.has .simSubscription = false := by
            by_contra holds
            have secondHolds := thirdHas (Bool.not_eq_false _ ▸ holds)
            simp [has] at secondHolds
          exact agree.trans thirdLacks
      exact goesBefore_trans_of_agree middle (middle.symm.trans agree) former latter
        (fun circle => none ⟨first, isFirst, second, isSecond, third, isThird, circle⟩)
        (fun circle => none ⟨second, isSecond, third, isThird, first, isFirst, circle⟩)
        (fun circle => none ⟨third, isThird, first, isFirst, second, isSecond, circle⟩)
    · cases lacks : third.has .simSubscription with
      | true => exact absurd ((secondHas (thirdHas lacks)).trans lacks.symm) agree
      | false => exact goesBefore_of_sim (by simpa [lacks] using agree) lacks

end Switchboard.Ranking
