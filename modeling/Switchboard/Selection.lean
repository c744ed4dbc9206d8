import Switchboard.Component
import Switchboard.Entries
import Switchboard.Trace

/-!
# Choosing a default component

Among the installed components that offer a capability, the first one that the allow-list names is chosen.
Every entry of the allow-list is read before any component is compared; entries that are empty or do not
name a component are passed over.
-/

namespace Switchboard.Selection

/-- The two roles for which a default component is chosen. -/
inductive Role where
  | dialer | inCall
deriving DecidableEq, Repr

/-- The capability that an installed component must offer for a role. -/
def Role.capability : Role → String
  | .dialer => "android.intent.action.DIAL"
  | .inCall => "android.telecom.InCallService"

/-- The installed components by capability, each list in the order of discovery. -/
abbrev Installed := Entries String (List Component)

/-- The installed components with a capability, in order. -/
def Installed.offering (installed : Installed) (capability : String) : List Component :=
  (Entries.get? capability installed).getD []

/-- The components that a list of written names allows. -/
def allowedBy (entries : List CodePoints) : List Component :=
  entries.filterMap Component.unflatten?

/-- The first of the candidates that is allowed. -/
def firstAllowed (candidates : List Component) (entries : List CodePoints) :
    Option Component :=
  candidates.find? fun candidate => (allowedBy entries).contains candidate

/-- The entry of an allow-list as a text. What counts as false is an empty entry, whatever its kind. -/
def entryText (entry : Value) : Except Misuse CodePoints :=
  match entry with
  | .text written => .ok written
  | .scalar (.halved points) => .ok (points.map (Fin.ofNat _))
  | .scalar (.octets (_ :: _)) => .error .octetsWanted
  | other => if other.isTruthy then .error (.lacksOperation other.kind "find") else .ok []

/-- The entries of an allow-list as texts, unless one of them is none. -/
def entryTexts : List Value → Except Misuse (List CodePoints)
  | [] => .ok []
  | entry :: rest => do
    let written ← entryText entry
    let others ← entryTexts rest
    return written :: others

/-- The entries of an allow-list: the items of a list, the characters of a text, the keys of a map, the numbers
of octets. -/
def allowList : Value → Except Misuse (List CodePoints)
  | .list entries => entryTexts entries
  | .text characters => .ok ((CodePoints.ofText characters).map fun point => [point])
  | .map entries => entryTexts (entries.map fun entry => .scalar entry.1)
  | .set members => entryTexts (members.map .scalar)
  | .pair first second => entryTexts [first, second]
  | .again _ => .ok []
  | .scalar (.halved points) => .ok (points.map fun point => [Fin.ofNat _ point])
  | .scalar (.octets content) => entryTexts (content.map fun octet => .int octet.toNat)
  | .scalar content => .error (.notIterable content.kind)

/-- The component chosen for a role. -/
def choose (installed : Installed) (role : Role) (allow : Value) :
    Except Misuse (Option Component) :=
  (allowList allow).map (firstAllowed (installed.offering role.capability))

/-- Asks for the installed components that can take a role, and chooses one of them. -/
def discover (installed : Installed) (role : Role) (allow : Value) :
    Traced Misuse (Option Component) := do
  Traced.send (.queried role.capability)
  Traced.lift (choose installed role allow)

/-- Discovery has what is chosen for its result. -/
@[simp] theorem result_discover (installed : Installed) (role : Role) (allow : Value) :
    (discover installed role allow).result = choose installed role allow := rfl

/-- They are asked for once, whatever comes of the choice. -/
@[simp] theorem trace_discover (installed : Installed) (role : Role) (allow : Value) :
    (discover installed role allow).trace = [.sent (.queried role.capability)] := rfl

end Switchboard.Selection
