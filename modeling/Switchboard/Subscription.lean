import Switchboard.Account
import Switchboard.Entries

/-!
# Subscriptions

A subscription has an id and the slot of the card it lives in. The known subscriptions are kept by account
handle; every other account has the subscription that is none.
-/

namespace Switchboard

/-- A subscription, by its id and the slot of its card. -/
structure Subscription where
  id : Int
  slot : Int
deriving DecidableEq, Repr

namespace Subscription

/-- The id of no subscription. -/
def invalidId : Int := -1

/-- The slot of no card. -/
def invalidSlot : Int := -1

/-- The subscription of an account that has none. -/
def none : Subscription := ⟨invalidId, invalidSlot⟩

/-- Whether a subscription is one. -/
def isValid (subscription : Subscription) : Bool :=
  subscription.id ≠ invalidId

end Subscription

/-- The known subscriptions by account handle. -/
abbrev Subscriptions := Entries Handle Subscription

namespace Subscriptions

/-- The subscription of an account; accounts are found by their handle alone. -/
def ofAccount (subscriptions : Subscriptions) (account : Account) : Subscription :=
  (Entries.get? account.handle subscriptions).getD .none

/-- Whether an account has a known subscription, be it a valid one or not. -/
def knows (subscriptions : Subscriptions) (account : Account) : Bool :=
  Entries.has account.handle subscriptions

end Subscriptions

end Switchboard
