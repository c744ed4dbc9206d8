import Switchboard.Text.CodePoint
import Switchboard.Text.Split

/-!
# Components

An installed component is named by the package that owns it and by its class. The written form is
`package/class`; a class that starts with a point is relative to its package. All of these texts may hold
halves of pairs.
-/

namespace Switchboard

/-- A component of a package, by its class. -/
structure Component where
  packageName : CodePoints
  className : CodePoints
deriving DecidableEq, Repr

namespace Component

/-- What stands between the package and the class. -/
def slash : CodePoint := .ofChar '/'

/-- What a relative class starts with. -/
def point : CodePoint := .ofChar '.'

/-- The written form. -/
def flatten (component : Component) : CodePoints :=
  component.packageName ++ slash :: component.className

/-- The class that a written class stands for in a package. -/
def resolveClass (packageName className : CodePoints) : CodePoints :=
  if className.head? = some point then packageName ++ className else className

/-- Reads the written form: both sides of the first slash must hold something. -/
def unflatten? (written : CodePoints) : Option Component :=
  match Text.splitAt? slash written with
  | none => none
  | some (packageName, className) =>
    if packageName.isEmpty || className.isEmpty then none
    else some ⟨packageName, resolveClass packageName className⟩

/-- The service through which the telephone network's own calls are placed. -/
def telephony : Component :=
  ⟨"com.android.phone", "com.android.services.telephony.TelephonyConnectionService"⟩

/-- Whether a component is that service. -/
def isTelephony (component : Component) : Bool :=
  component = telephony

end Component

end Switchboard
