import Switchboard.Ranking.Sort
import Switchboard.Subscription

/-!
# The order of accounts

Five criteria are asked in turn and the first that tells two accounts apart decides. The slot criterion is
silent unless both accounts have a valid subscription, so the whole need not be a transitive order; the last
criterion ties for equal accounts only.

The last criterion asks for the identity hash, which not every account has. Whether two accounts can be held
against each other so depends on how far the other criteria tell them apart; where they cannot, the ranking
of a list that comes to compare them fails. The limit for the digits of a number is one of the process.
-/

namespace Switchboard.Ranking

/-- What accounts are told apart by. -/
inductive Criterion where
  | sim | slot | package | label | identity
deriving DecidableEq, Repr

/-- The fields of two accounts in order; equal only for equal accounts. -/
def compareFields (left right : Account) : Ordering :=
  (compare left.packageName right.packageName).then <|
  (compare left.handle.component.className right.handle.component.className).then <|
  (compare left.handle.id right.handle.id).then <|
  (compare left.label.isSome right.label.isSome).then <|
  (compare left.labelText right.labelText).then <|
  (compare left.capabilities right.capabilities).then <|
  compare left.enabled right.enabled

/-- Accounts with a card go first. -/
def compareSim (left right : Account) : Ordering :=
  compare (right.has .simSubscription) (left.has .simSubscription)

/-- The lower slot goes first, where both accounts have a valid subscription. -/
def compareSlot (subscriptions : Subscriptions) (left right : Account) : Ordering :=
  let first := subscriptions.ofAccount left
  let second := subscriptions.ofAccount right
  if first.isValid && second.isValid then compare first.slot second.slot else .eq

/-- The identity hash, then every field. -/
def compareIdentity (limit : Option Nat) (left right : Account) : Except Unwritable Ordering := do
  let first ← left.identityHash limit
  let second ← right.identityHash limit
  return (compare first second).then (compareFields left right)

namespace Criterion

/-- How two accounts compare by a criterion alone. -/
def apply (limit : Option Nat) (subscriptions : Subscriptions) (criterion : Criterion)
    (left right : Account) : Except Unwritable Ordering :=
  match criterion with
  | .sim => .ok (compareSim left right)
  | .slot => .ok (compareSlot subscriptions left right)
  | .package => .ok (compare left.packageName right.packageName)
  | .label => .ok (compare left.labelText right.labelText)
  | .identity => compareIdentity limit left right

/-- The criteria in the order in which they are asked. -/
def all : List Criterion := [.sim, .slot, .package, .label, .identity]

end Criterion

section Comparing

variable (limit : Option Nat) (subscriptions : Subscriptions)

/-- The first criterion that tells the accounts apart decides; those behind it are not asked. -/
def compareBy (left right : Account) : List Criterion → Except Unwritable Ordering
  | [] => .ok .eq
  | criterion :: rest => do
    match ← criterion.apply limit subscriptions left right with
    | .eq => compareBy left right rest
    | decided => return decided

/-- How two accounts compare. -/
def compareAccounts (left right : Account) : Except Unwritable Ordering :=
  compareBy limit subscriptions left right Criterion.all

/-- Whether an account comes before another one. -/
def precedes (left right : Account) : Except Unwritable Bool :=
  (compareAccounts limit subscriptions left right).map (· = .lt)

/-- The accounts in the order in which they are displayed and in which a default is chosen. -/
def rank (accounts : List Account) : Except Unwritable (List Account) :=
  sortM (precedes limit subscriptions) accounts

end Comparing

end Switchboard.Ranking
