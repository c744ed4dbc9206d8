import Switchboard.Proofs.Ranking.Circle
import Switchboard.Proofs.Ranking.Neighbours

/-!
# The display order

What ranking does for every list of accounts and all known subscriptions, whether or not the
accounts form circles, and what it does in addition where they form none. Where they form one, the
list that is ranked can be put in another order that is ranked otherwise.

A list of accounts that can be written has a rank. A list with another account in it need not have
one: that depends on whether the identity of such an account is asked for, and ranking fails where it
is. All that is said of ranks holds for those of such lists as well, but that another list has a rank
too is known only where all accounts can be written (`AreWritable`).
-/

namespace Switchboard.Ranking

/-- The accounts as they are ranked where all comparisons have an outcome. -/
def arranged (subscriptions : Subscriptions) (accounts : List Account) : List Account :=
  sort (goesBefore subscriptions) accounts

variable (limit : Option Nat) (subscriptions : Subscriptions) (accounts : List Account)

/-- Whether two accounts are compared and are in order: the first is at most the second. -/
def Ordered (account later : Account) : Prop :=
  ∃ outcome, compareAccounts limit subscriptions account later = .ok outcome ∧ outcome.isLE = true

/-- Whether all accounts of a list can be written. -/
def AreWritable : Prop :=
  ∀ account ∈ accounts, account.IsWritable limit

/-- Whether a card of the later of two accounts comes with a card of the former. -/
def SimFirst (account later : Account) : Prop :=
  later.has .simSubscription = true → account.has .simSubscription = true

/-- Cards first is transitive, as it only asks what has one. -/
instance : Trans SimFirst SimFirst SimFirst where
  trans former latter has := former (latter has)

section Answers

variable {limit subscriptions} {account later : Account}

/-- An account precedes another where their comparison says so, and fails where it does. -/
theorem precedes_eq_ok_iff {before : Bool} :
    precedes limit subscriptions account later = .ok before ↔
      ∃ outcome, compareAccounts limit subscriptions account later = .ok outcome ∧
        (decide (outcome = .lt)) = before := by
  rw [precedes]
  cases compareAccounts limit subscriptions account later <;> simp [Except.map]

/-- What is said of the order of two accounts is what their ordering says. -/
theorem precedes_yields :
    Yields True (precedes limit subscriptions account later) (goesBefore subscriptions account later) := by
  cases told : precedes limit subscriptions account later with
  | error fault => exact .inr ⟨trivial, fault, rfl⟩
  | ok before =>
    obtain ⟨outcome, compared, rfl⟩ := precedes_eq_ok_iff.mp told
    rw [(compareAccounts_eq_ok_iff.mp compared).2]
    exact .ok

/-- Accounts that can be written are told to be in order or not. -/
theorem precedes_of_isWritable (writable : account.IsWritable limit)
    (laterWritable : later.IsWritable limit) :
    precedes limit subscriptions account later = .ok (goesBefore subscriptions account later) :=
  precedes_eq_ok_iff.mpr ⟨_, compareAccounts_of_isWritable writable laterWritable, rfl⟩

/-- No two accounts precede each other. -/
theorem precedes_turns : Turns (precedes limit subscriptions) := by
  intro first second before told
  obtain ⟨outcome, compared, rfl⟩ := precedes_eq_ok_iff.mp told
  refine ⟨_, precedes_eq_ok_iff.mpr ⟨_, compareAccounts_swap compared, rfl⟩, ?_⟩
  cases outcome <;> simp

/-- An account follows another one where the two are compared and are in order. -/
theorem follows_precedes_iff :
    Follows (precedes limit subscriptions) account later ↔ Ordered limit subscriptions account later := by
  rw [Follows, precedes_eq_ok_iff]
  constructor
  · rintro ⟨outcome, compared, behind⟩
    refine ⟨_, compareAccounts_swap compared, ?_⟩
    cases outcome <;> simp_all
  · rintro ⟨outcome, compared, ordered⟩
    refine ⟨_, compareAccounts_swap compared, ?_⟩
    cases outcome <;> simp_all

/-- Cards come first among accounts that are in order. -/
theorem Ordered.simFirst (ordered : Ordered limit subscriptions account later) :
    SimFirst account later := by
  intro has
  by_contra lacks
  have before : goesBefore subscriptions later account = true :=
    goesBefore_of_sim has (Bool.eq_false_iff.mpr lacks)
  have stays := precedes_yields.eq_of_eq_ok (follows_precedes_iff.mpr ordered)
  simp [before] at stays

/-- Accounts that can be written are in order where their ordering says so. -/
theorem ordered_iff_of_isWritable (writable : account.IsWritable limit)
    (laterWritable : later.IsWritable limit) :
    Ordered limit subscriptions account later ↔
      (ordering subscriptions account later).isLE = true := by
  simp [Ordered, compareAccounts_of_isWritable writable laterWritable]

end Answers

section Ranks

variable {limit accounts}

/-- Accounts that can be written are ranked. -/
theorem rank_of_areWritable (writable : AreWritable limit accounts) :
    rank limit subscriptions accounts = .ok (arranged subscriptions accounts) := by
  have answers : Answers False (fun account => account.IsWritable limit)
      (precedes limit subscriptions) (goesBefore subscriptions) :=
    fun _ _ isFirst isSecond => .inl (precedes_of_isWritable isFirst isSecond)
  exact (sortM_yields answers writable).eq_ok id

/-- What accounts are ranked as does not depend on whether they can be written. -/
theorem rank_eq_of_ok {ranked : List Account} (ended : rank limit subscriptions accounts = .ok ranked) :
    ranked = arranged subscriptions accounts := by
  have answers : Answers True (fun _ => True) (precedes limit subscriptions)
      (goesBefore subscriptions) := fun _ _ _ _ => precedes_yields
  exact (sortM_yields answers fun _ _ => trivial).eq_of_eq_ok ended

/-- Neighbours are compared and in order, even where the comparison is not transitive. -/
theorem rank_isChain {ranked : List Account} (ended : rank limit subscriptions accounts = .ok ranked) :
    ranked.IsChain (Ordered limit subscriptions) :=
  (sortM_follows precedes_turns ended).imp fun _ _ => follows_precedes_iff.mp

/-- A list with ordered neighbours stays as it is. -/
theorem rank_of_isChain (ordered : accounts.IsChain (Ordered limit subscriptions)) :
    rank limit subscriptions accounts = .ok accounts :=
  sortM_of_follows (ordered.imp fun _ _ => follows_precedes_iff.mpr)

variable (limit accounts)

end Ranks

section Cards

/-- An account with a card that is told apart by its package. -/
def card (package : String) : Account :=
  .ofTexts package "S" "0" none Capability.simSubscription.flag true

/-- Two of three cards, in slots along the order of their packages. -/
def parallel : Subscriptions :=
  [((card "a").handle, ⟨1, 0⟩), ((card "c").handle, ⟨2, 1⟩)]

/-- The same two cards, in slots against the order of their packages. -/
def crossed : Subscriptions :=
  [((card "a").handle, ⟨1, 1⟩), ((card "c").handle, ⟨2, 0⟩)]

/-- Cards can be written within the limit of a process. -/
theorem areWritable_cards (packages : List String) :
    AreWritable (some Numeral.digitLimit) (packages.map card) := by
  intro account isCard
  obtain ⟨package, -, rfl⟩ := List.mem_map.mp isCard
  exact Account.ofTexts_isWritable (by decide)

end Cards

section Total

variable {limit accounts}

/-- Accounts that can be written precede each other as their ordering says. -/
theorem compareAccounts_eq_lt_iff {first second : Account} (isFirst : first.IsWritable limit)
    (isSecond : second.IsWritable limit) :
    compareAccounts limit subscriptions first second = .ok .lt ↔
      goesBefore subscriptions first second = true := by
  rw [compareAccounts_of_isWritable isFirst isSecond, goesBefore_iff, Except.ok.injEq]

/-- The comparison of accounts that can be written is transitive exactly where none of them form a
circle. -/
theorem trans_compareAccounts_iff (writable : AreWritable limit accounts) :
    (∀ first ∈ accounts, ∀ second ∈ accounts, ∀ third ∈ accounts,
        compareAccounts limit subscriptions first second = .ok .lt →
        compareAccounts limit subscriptions second third = .ok .lt →
        compareAccounts limit subscriptions first third = .ok .lt) ↔
      ¬ HoldsCircle subscriptions accounts := by
  rw [← transitiveOn_goesBefore_iff]
  refine forall₂_congr fun first isFirst => forall₂_congr fun second isSecond =>
    forall₂_congr fun third isThird => ?_
  rw [compareAccounts_eq_lt_iff subscriptions (writable first isFirst) (writable second isSecond),
    compareAccounts_eq_lt_iff subscriptions (writable second isSecond) (writable third isThird),
    compareAccounts_eq_lt_iff subscriptions (writable first isFirst) (writable third isThird)]

/-- Some of the accounts that can be written can be written. -/
theorem AreWritable.mono {others : List Account} (writable : AreWritable limit accounts)
    (within : others ⊆ accounts) : AreWritable limit others :=
  fun account isOther => writable account (within isOther)

/-- Accounts that form no circle are ranked so that all are in order. -/
theorem arranged_pairwise (writable : AreWritable limit accounts)
    (none : ¬ HoldsCircle subscriptions accounts) :
    (arranged subscriptions accounts).Pairwise (Ordered limit subscriptions) := by
  have transitive := (transitiveOn_goesBefore_iff subscriptions accounts).mpr none
  have ordered : (arranged subscriptions accounts).Pairwise (Linked (goesBefore subscriptions)) :=
    sort_pairwise (goesBefore_asymmetric subscriptions) (goesBefore_tellsApart subscriptions) transitive
  have rankedWritable := writable.mono (sort_perm (goesBefore subscriptions) accounts).subset
  refine ordered.imp_of_mem fun {account later} isRanked isLater linked => ?_
  rw [ordered_iff_of_isWritable (rankedWritable account isRanked) (rankedWritable later isLater)]
  exact (linked_goesBefore_iff subscriptions account later).mp linked

/-- The order in which accounts that can be written are given does not matter exactly where none of
them form a circle. -/
theorem rank_perm_invariant_iff (writable : AreWritable limit accounts) :
    (∀ others, others.Perm accounts →
        rank limit subscriptions others = rank limit subscriptions accounts) ↔
      ¬ HoldsCircle subscriptions accounts := by
  rw [← transitiveOn_goesBefore_iff, ← sort_invariant_iff (goesBefore_asymmetric subscriptions)
    (goesBefore_tellsApart subscriptions)]
  refine forall₂_congr fun others same => ?_
  rw [rank_of_areWritable subscriptions (writable.mono same.subset),
    rank_of_areWritable subscriptions writable, Except.ok.injEq, arranged, arranged]

/-- Where slots lie along the order of packages, no order of the cards matters. -/
theorem rank_perm_invariant_parallel :
    AreWritable (some Numeral.digitLimit) [card "a", card "b", card "c"] ∧
      rank (some Numeral.digitLimit) parallel [card "c", card "b", card "a"] =
        rank (some Numeral.digitLimit) parallel [card "a", card "b", card "c"] := by
  have writable : AreWritable (some Numeral.digitLimit) [card "a", card "b", card "c"] :=
    areWritable_cards ["a", "b", "c"]
  refine ⟨writable, (rank_perm_invariant_iff parallel writable).mpr ?_ _ ?_⟩ <;> decide

example : HoldsCircle crossed [card "a", card "b", card "c"] := by decide

/-- Cards that form a circle stay as they are given, in two of their orders. -/
theorem rank_crossed_rotated :
    [card "b", card "c", card "a"].Perm [card "a", card "b", card "c"] ∧
      rank (some Numeral.digitLimit) crossed [card "a", card "b", card "c"] =
        .ok [card "a", card "b", card "c"] ∧
      rank (some Numeral.digitLimit) crossed [card "b", card "c", card "a"] =
        .ok [card "b", card "c", card "a"] ∧
      rank (some Numeral.digitLimit) crossed [card "b", card "c", card "a"] ≠
        rank (some Numeral.digitLimit) crossed [card "a", card "b", card "c"] := by
  have compared : ∀ package other, (ordering crossed (card package) (card other)).isLE = true →
      Ordered (some Numeral.digitLimit) crossed (card package) (card other) := fun package other =>
    (ordered_iff_of_isWritable (areWritable_cards [package] _ (by simp))
      (areWritable_cards [other] _ (by simp))).mpr
  have isBefore : Ordered (some Numeral.digitLimit) crossed (card "a") (card "b") :=
    compared "a" "b" (by decide)
  have isBetween : Ordered (some Numeral.digitLimit) crossed (card "b") (card "c") :=
    compared "b" "c" (by decide)
  have isRound : Ordered (some Numeral.digitLimit) crossed (card "c") (card "a") :=
    compared "c" "a" (by decide)
  have given : rank (some Numeral.digitLimit) crossed [card "a", card "b", card "c"] =
      .ok [card "a", card "b", card "c"] := rank_of_isChain crossed (by simp [isBefore, isBetween])
  have rotated : rank (some Numeral.digitLimit) crossed [card "b", card "c", card "a"] =
      .ok [card "b", card "c", card "a"] := rank_of_isChain crossed (by simp [isBetween, isRound])
  refine ⟨by decide, given, rotated, ?_⟩
  rw [given, rotated]
  decide

end Total

end Switchboard.Ranking
