import Switchboard.Checksum
import Switchboard.Component
import Switchboard.Value.Literal

/-!
# Calling accounts

An account belongs to a component and has a short id there; component and id together are its handle. It may
have a label, advertises capabilities as flags of a number, and may be enabled. Its texts may hold halves of
pairs, and its flags may be a number of any size.

The identity hash is taken over the fields in one text, and not every account has one: the number of its
flags is written only up to a number of digits, unless there is no limit to them, and halves of pairs are not
written as bytes.
-/

namespace Switchboard

/-- What tells accounts apart for those who only refer to them. -/
structure Handle where
  component : Component
  id : CodePoints
deriving DecidableEq, Repr

/-- A calling account. -/
structure Account where
  handle : Handle
  label : Option CodePoints
  capabilities : Nat
  enabled : Bool
deriving DecidableEq, Repr

/-- What an account may advertise. -/
inductive Capability where
  | none | connectionManager | callProvider | simSubscription | videoCalling | placeEmergencyCalls
deriving DecidableEq, Repr

namespace Capability

/-- The flag by which a capability is advertised. -/
def flag : Capability → Nat
  | .none => 0
  | .connectionManager => 0x1
  | .callProvider => 0x2
  | .simSubscription => 0x4
  | .videoCalling => 0x8
  | .placeEmergencyCalls => 0x10

/-- All capabilities, in ascending order of their flags. -/
def all : List Capability :=
  [.none, .connectionManager, .callProvider, .simSubscription, .videoCalling, .placeEmergencyCalls]

end Capability

namespace Account

/-- The number of flags that accounts may have. -/
def flagCount : Nat := 5

/-- The flags that a number stands for. A negative number takes flags away from all that there are, or from
as many as it takes itself when it is beyond those. -/
def flagsOf : Int → Nat
  | .ofNat flags => flags
  | .negSucc less =>
    let taken := less + 1
    let width := if taken ≤ Nat.pow 2 flagCount then flagCount else taken.log2 + 1
    Nat.pow 2 width - taken

/-- Whether every one of the flags that a number stands for is set. -/
def hasFlags (account : Account) (flags : Int) : Bool :=
  account.capabilities &&& flagsOf flags = flagsOf flags

/-- Whether an account advertises a capability. -/
def has (account : Account) (capability : Capability) : Bool :=
  account.hasFlags capability.flag

/-- The package that owns an account. -/
def packageName (account : Account) : CodePoints :=
  account.handle.component.packageName

/-- The label, empty when there is none. -/
def labelText (account : Account) : CodePoints :=
  account.label.getD []

/-- What stands between the fields of an account in one text. -/
def separator : CodePoint := .ofChar '\x00'

/-- What stands for a missing label. -/
def noLabel : CodePoints := [.ofChar '\x01']

/-- The fields of an account in one text, separated by the null character; a missing label is a character of
its own. -/
def fieldsText (account : Account) : CodePoints :=
  [separator].intercalate
    [ account.packageName, account.handle.component.className, account.handle.id,
      account.label.getD noLabel, CodePoints.ofText (toString account.capabilities),
      CodePoints.ofText (if account.enabled then "1" else "0") ]

/-- The text of the fields, as long as the number of the flags has no more digits than the limit, if there is
one. -/
def identityText (limit : Option Nat) (account : Account) : Except Unwritable CodePoints :=
  match limit.filter fun digits => Nat.pow 10 digits ≤ account.capabilities with
  | some digits => .error (.tooLong digits)
  | none => .ok account.fieldsText

/-- A number for an account that depends on its fields alone. Different accounts may share one. -/
def identityHash (limit : Option Nat) (account : Account) : Except Unwritable Nat := do
  let text ← account.identityText limit
  let bytes ← (Text.encode text).mapError .halves
  return (Checksum.ofBytes bytes).toNat

/-- The account for emergency calls while no account is registered: its label is its id. -/
def emergency : Account :=
  { handle := ⟨.telephony, "E"⟩
    label := some "E"
    capabilities :=
      Capability.simSubscription.flag ||| Capability.callProvider.flag |||
        Capability.placeEmergencyCalls.flag
    enabled := true }

end Account

end Switchboard
