import Mathlib.Order.Basic
import Switchboard.Proofs.Ranking.Answering
import Switchboard.Proofs.Ranking.Identity
import Switchboard.Ranking.Order

/-!
# The comparison of accounts

Two accounts can be compared where one of the criteria in front of the last one tells them apart, or
where both can be written (`compareAccounts_eq_ok_iff`). What their comparison then is does not depend on
the limit to the digits of a number: it is the ordering of the accounts, which is defined for all.

Turning two accounts round turns their comparison round, and only equal accounts tie. Both hold
for all known subscriptions, whichever accounts have one. The criteria but for the slot are orders
on their own; what follows the slot is the tail of the comparison, an order that ties for equal
accounts only. The slot criterion is the one that keeps the whole from being transitive.
-/

namespace Switchboard

namespace Account

/-- An account is determined by its fields. Whether there is a label is a field of its own, so
that the text of a missing label and an empty label are told apart. -/
theorem ext_fields {left right : Account} (package : left.packageName = right.packageName)
    (className : left.handle.component.className = right.handle.component.className)
    (id : left.handle.id = right.handle.id) (labelled : left.label.isSome = right.label.isSome)
    (label : left.labelText = right.labelText)
    (capabilities : left.capabilities = right.capabilities) (enabled : left.enabled = right.enabled) :
    left = right := by
  obtain ⟨⟨⟨leftPackage, leftClass⟩, leftId⟩, leftLabel, leftFlags, leftEnabled⟩ := left
  obtain ⟨⟨⟨rightPackage, rightClass⟩, rightId⟩, rightLabel, rightFlags, rightEnabled⟩ := right
  have same : leftLabel = rightLabel := by
    cases leftLabel <;> cases rightLabel <;> simp_all [labelText]
  simp_all [packageName]

end Account

namespace Ranking

open Std

/-- The criteria in front of the identity. -/
def compareFront (subscriptions : Subscriptions) (left right : Account) : Ordering :=
  (compareSim left right).then <|
  (compareSlot subscriptions left right).then <|
  (compare left.packageName right.packageName).then (compare left.labelText right.labelText)

/-- What is asked after the slot: package, label, identity hash and fields. -/
def compareTail (left right : Account) : Ordering :=
  (compare left.packageName right.packageName).then <|
  (compare left.labelText right.labelText).then <|
  (compare left.hash right.hash).then (compareFields left right)

/-- The ordering of two accounts: cards, then slots, then the tail. -/
def ordering (subscriptions : Subscriptions) (left right : Account) : Ordering :=
  (compareSim left right).then ((compareSlot subscriptions left right).then (compareTail left right))

/-- The ordering is that of the criteria in front of the identity, and then that of the identity. -/
theorem ordering_eq (subscriptions : Subscriptions) (left right : Account) :
    ordering subscriptions left right =
      (compareFront subscriptions left right).then
        ((compare left.hash right.hash).then (compareFields left right)) := by
  simp only [ordering, compareTail, compareFront, Ordering.then_assoc]

/-- The comparison of fields is transitive. -/
instance : TransCmp compareFields :=
  inferInstanceAs (TransCmp
    (compareLex (compareOn Account.packageName) <|
      compareLex (compareOn fun account => account.handle.component.className) <|
      compareLex (compareOn fun account => account.handle.id) <|
      compareLex (compareOn fun account => account.label.isSome) <|
      compareLex (compareOn Account.labelText) <|
      compareLex (compareOn Account.capabilities) (compareOn Account.enabled)))

/-- Accounts that tie in all fields are equal. -/
instance : LawfulEqCmp compareFields where
  eq_of_compare {left right} tie := by
    simp only [compareFields, Ordering.then_eq_eq, LawfulEqOrd.compare_eq_iff_eq] at tie
    obtain ⟨package, className, id, labelled, label, capabilities, enabled⟩ := tie
    exact Account.ext_fields package className id labelled label capabilities enabled

/-- The comparison behind the slots is transitive. -/
instance : TransCmp compareTail :=
  inferInstanceAs (TransCmp
    (compareLex (compareOn Account.packageName) <|
      compareLex (compareOn Account.labelText) <|
      compareLex (compareOn Account.hash) compareFields))

/-- The tail ties for equal accounts only, whether or not identity hashes of different ones
collide. -/
instance : LawfulEqCmp compareTail where
  eq_of_compare {left right} tie := by
    simp only [compareTail, Ordering.then_eq_eq] at tie
    exact LawfulEqCmp.eq_of_compare tie.2.2.2

/-- Turned round, the comparison of cards is swapped. -/
theorem compareSim_swap (left right : Account) :
    compareSim left right = (compareSim right left).swap :=
  OrientedOrd.eq_swap

/-- Turned round, the comparison of slots is swapped, also where it is left out. -/
theorem compareSlot_swap (subscriptions : Subscriptions) (left right : Account) :
    compareSlot subscriptions left right = (compareSlot subscriptions right left).swap := by
  simp only [compareSlot, Bool.and_comm (subscriptions.ofAccount right).isValid]
  split
  · exact OrientedOrd.eq_swap
  · rfl

/-- Turned round, the comparison up to the label is swapped. -/
theorem compareFront_swap (subscriptions : Subscriptions) (left right : Account) :
    compareFront subscriptions left right = (compareFront subscriptions right left).swap := by
  have packages : compare left.packageName right.packageName =
      (compare right.packageName left.packageName).swap := OrientedOrd.eq_swap
  have labels : compare left.labelText right.labelText =
      (compare right.labelText left.labelText).swap := OrientedOrd.eq_swap
  simp only [compareFront, Ordering.swap_then]
  rw [← compareSim_swap, ← compareSlot_swap, ← packages, ← labels]

/-- Turning two accounts round turns their ordering round. -/
theorem ordering_swap (subscriptions : Subscriptions) (left right : Account) :
    ordering subscriptions left right = (ordering subscriptions right left).swap := by
  have tails : compareTail left right = (compareTail right left).swap := OrientedCmp.eq_swap
  rw [ordering, ordering, Ordering.swap_then, Ordering.swap_then, ← compareSim_swap,
    ← compareSlot_swap, ← tails]

/-- An account ties with itself. -/
theorem ordering_self (subscriptions : Subscriptions) (account : Account) :
    ordering subscriptions account account = .eq := by
  have swapped := ordering_swap subscriptions account account
  cases outcome : ordering subscriptions account account with
  | eq => rfl
  | lt => simp [outcome] at swapped
  | gt => simp [outcome] at swapped

/-- Only equal accounts tie. -/
theorem ordering_eq_eq_iff (subscriptions : Subscriptions) (left right : Account) :
    ordering subscriptions left right = .eq ↔ left = right := by
  constructor
  · intro tie
    rw [ordering, Ordering.then_eq_eq, Ordering.then_eq_eq] at tie
    exact LawfulEqCmp.eq_of_compare tie.2.2
  · rintro rfl
    exact ordering_self subscriptions left

/-- Whether an account comes before another one by their ordering. -/
def goesBefore (subscriptions : Subscriptions) (left right : Account) : Bool :=
  ordering subscriptions left right = .lt

/-- An account goes before another where it is ordered before it. -/
theorem goesBefore_iff (subscriptions : Subscriptions) (left right : Account) :
    goesBefore subscriptions left right = true ↔ ordering subscriptions left right = .lt := by
  simp [goesBefore]

/-- No two accounts go before each other. -/
theorem goesBefore_asymmetric (subscriptions : Subscriptions) :
    Asymmetric (goesBefore subscriptions) := by
  intro left right before
  rw [goesBefore_iff] at before
  rw [goesBefore, ordering_swap, before]
  rfl

/-- Of two different accounts one comes before the other. -/
theorem goesBefore_tellsApart (subscriptions : Subscriptions) (left right : Account)
    (former : goesBefore subscriptions left right = false)
    (latter : goesBefore subscriptions right left = false) : left = right := by
  rw [← ordering_eq_eq_iff subscriptions]
  rw [goesBefore, ordering_swap] at latter
  cases outcome : ordering subscriptions left right with
  | eq => rfl
  | lt => simp [goesBefore, outcome] at former
  | gt => simp [outcome] at latter

/-- Linked accounts are those of which the first is at most the second. -/
theorem linked_goesBefore_iff (subscriptions : Subscriptions) (account next : Account) :
    Linked (goesBefore subscriptions) account next ↔
      (ordering subscriptions account next).isLE = true := by
  rw [Linked, goesBefore, ordering_swap]
  cases ordering subscriptions account next <;> decide

section Comparing

variable {limit : Option Nat} {subscriptions : Subscriptions} {left right : Account}

/-- Identities are compared exactly where both accounts can be written. -/
theorem compareIdentity_eq_ok_iff {outcome : Ordering} :
    compareIdentity limit left right = .ok outcome ↔
      (left.IsWritable limit ∧ right.IsWritable limit) ∧
        outcome = (compare left.hash right.hash).then (compareFields left right) := by
  simp only [compareIdentity, bind_eq_ok_iff, Account.identityHash_eq_ok_iff, pure_eq_ok_iff]
  constructor
  · rintro ⟨_, ⟨leftWritable, rfl⟩, _, ⟨rightWritable, rfl⟩, rfl⟩
    exact ⟨⟨leftWritable, rightWritable⟩, rfl⟩
  · rintro ⟨⟨leftWritable, rightWritable⟩, rfl⟩
    exact ⟨_, ⟨leftWritable, rfl⟩, _, ⟨rightWritable, rfl⟩, rfl⟩

/-- The outcome of a criterion that cannot fail, or of what is asked after it where it ties. -/
def orElse (first : Ordering) (next : Except Unwritable Ordering) : Except Unwritable Ordering :=
  match first with
  | .eq => next
  | decided => .ok decided

/-- One outcome after another decides before what comes next. -/
@[simp] theorem orElse_then (first second : Ordering) (next : Except Unwritable Ordering) :
    orElse (first.then second) next = orElse first (orElse second next) := by
  cases first <;> rfl

/-- The next criterion counts only where the first outcome is a tie. -/
theorem orElse_eq_ok_iff {first outcome : Ordering} {next : Except Unwritable Ordering} :
    orElse first next = .ok outcome ↔
      first ≠ .eq ∧ outcome = first ∨ first = .eq ∧ next = .ok outcome := by
  cases first <;> simp [orElse, eq_comm]

/-- A criterion that answers is followed by the rest. -/
theorem compareBy_cons_of_ok {criterion : Criterion} {outcome : Ordering} (rest : List Criterion)
    (applied : criterion.apply limit subscriptions left right = .ok outcome) :
    compareBy limit subscriptions left right (criterion :: rest) =
      orElse outcome (compareBy limit subscriptions left right rest) := by
  rw [compareBy, applied]
  cases outcome <;> rfl

/-- Behind the last criterion nothing is asked. -/
theorem compareBy_identity :
    compareBy limit subscriptions left right [.identity] = compareIdentity limit left right := by
  simp only [compareBy, Criterion.apply]
  rcases compareIdentity limit left right with fault | outcome
  · rfl
  · cases outcome <;> rfl

/-- The criteria in front of the identity decide, or the identity is compared. -/
theorem compareAccounts_eq (limit : Option Nat) (subscriptions : Subscriptions)
    (left right : Account) :
    compareAccounts limit subscriptions left right =
      orElse (compareFront subscriptions left right) (compareIdentity limit left right) := by
  unfold compareAccounts Criterion.all compareFront
  rw [compareBy_cons_of_ok _ rfl, compareBy_cons_of_ok _ rfl, compareBy_cons_of_ok _ rfl,
    compareBy_cons_of_ok _ rfl, compareBy_identity]
  simp only [orElse_then]

/-- Two accounts are compared exactly where a criterion in front of the identity tells them apart or
both can be written; and then their comparison is their ordering. -/
theorem compareAccounts_eq_ok_iff {outcome : Ordering} :
    compareAccounts limit subscriptions left right = .ok outcome ↔
      (compareFront subscriptions left right ≠ .eq ∨
        left.IsWritable limit ∧ right.IsWritable limit) ∧
      outcome = ordering subscriptions left right := by
  rw [compareAccounts_eq, orElse_eq_ok_iff, compareIdentity_eq_ok_iff, ordering_eq]
  cases compareFront subscriptions left right <;> simp

/-- Accounts that can be written are compared. -/
theorem compareAccounts_of_isWritable (leftWritable : left.IsWritable limit)
    (rightWritable : right.IsWritable limit) :
    compareAccounts limit subscriptions left right = .ok (ordering subscriptions left right) :=
  compareAccounts_eq_ok_iff.mpr ⟨.inr ⟨leftWritable, rightWritable⟩, rfl⟩

/-- Accounts that are compared are compared the other way round as well. -/
theorem compareAccounts_swap {outcome : Ordering}
    (compared : compareAccounts limit subscriptions left right = .ok outcome) :
    compareAccounts limit subscriptions right left = .ok outcome.swap := by
  obtain ⟨answered, rfl⟩ := compareAccounts_eq_ok_iff.mp compared
  refine compareAccounts_eq_ok_iff.mpr ⟨?_, ?_⟩
  · refine answered.imp (fun apart tie => apart ?_) And.symm
    rw [compareFront_swap, tie]
    rfl
  · rw [ordering_swap, Ordering.swap_swap]

end Comparing

/-- The outcome of a comparison as a number. -/
def sign : Ordering → Int
  | .lt => -1
  | .eq => 0
  | .gt => 1

/-- A swapped outcome has the opposite sign. -/
theorem sign_swap (outcome : Ordering) : sign outcome.swap = -sign outcome := by
  cases outcome <;> rfl

/-- Only a tie has the sign zero. -/
theorem sign_eq_zero_iff {outcome : Ordering} : sign outcome = 0 ↔ outcome = .eq := by
  cases outcome <;> simp [sign]

/-- An account without a label. -/
def unlabelled : Account := .ofTexts "a" "b" "c" none 4 true

/-- The same account with a label that is the mark of a missing one. -/
def labelled : Account := .ofTexts "a" "b" "c" (some "\x01") 4 true

end Ranking

end Switchboard
