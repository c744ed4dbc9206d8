import Switchboard.Client
import Switchboard.Ranking.Sort
import Switchboard.Value.Key

/-!
# The registry of services

Services are registered under names. A name may be bound to nothing at all, which counts as registered but is
no service to be found. The registry refuses empty names, and values that cannot be keys. A name that is too
long a number is bound and unbound all the same, but the message that tells so is not made.
-/

namespace Switchboard

/-- What may be registered. -/
inductive Service where
  /-- Nothing. -/
  | absent
  /-- Something that cannot be asked. -/
  | mute
  | remote (client : Client)
  /-- Something that answers questions itself, but not those that it has no operation for. -/
  | own (id : String) (respond : Question → Option (String → Except Failure Value))

namespace Service

/-- A service that knows some emergency numbers, and the beginnings of potential ones. -/
def ofNumbers (id : String) (numbers beginnings : List String) : Service :=
  .own id fun question => some fun number =>
    .ok (.bool (match question with
      | .localNumber => numbers.contains number
      | .potentialNumber => beginnings.any fun beginning =>
          beginning.toList.isPrefixOf number.toList))

/-- A service that gives one answer to every question. -/
def constant (id : String) (answer : Value) : Service :=
  .own id fun _ => some fun _ => .ok answer

/-- A service that fails at every question. -/
def failing (id : String) (failure : Failure) : Service :=
  .own id fun _ => some fun _ => .error failure

/-- The service after a write into settings, which a client may share. -/
def amend (edit : Settings.Edit) : Service → Service
  | .remote client => .remote { client with timeout := client.timeout.amend edit }
  | other => other

end Service

/-- Why a name is not registered, or not without fault, and why a question about it has no answer. -/
inductive RegistryFault where
  | emptyName
  | unusable (misuse : Misuse)
  /-- A message about the name is not made. -/
  | unwritable (obstacle : Unwritable)
  /-- A message about the failure of a service is not made. -/
  | failed (failure : Failure)
deriving DecidableEq, Repr

/-- What is said of a fault; of a failure that cannot say what it is, nothing. -/
def RegistryFault.message : RegistryFault → String
  | .emptyName => "Service name must not be empty"
  | .unusable misuse => misuse.message
  | .unwritable obstacle => obstacle.message
  | .failed failure => failure.message.toOption.getD ""

/-- The services by name, in the order of their first registration. -/
abbrev Registry := Entries Scalar Service

namespace Registry

/-- The logger of the registry. -/
def logger : String := "callroute.service_registry"

/-- Binds a name, in place of what it was bound to. -/
def register (registry : Registry) (name : Value) (service : Service) :
    Registry × Traced RegistryFault Unit :=
  if !name.isTruthy then (registry, .fail .emptyName)
  else
    match name.asKey with
    | .error misuse => (registry, .fail (.unusable misuse))
    | .ok key =>
      let verb := if Entries.has key registry then "Replaced" else "Registered"
      (Entries.put key service registry,
        if key.isTooLong then .fail (.unwritable (.tooLong Numeral.digitLimit))
        else Traced.log .info logger (verb ++ " service: " ++ key.shown))

/-- Unbinds a name and says whether a service was bound to it. -/
def unregister (registry : Registry) (name : Value) : Registry × Traced RegistryFault Bool :=
  match name.asKey with
  | .error misuse => (registry, .fail (.unusable misuse))
  | .ok key =>
    match Entries.get? key registry with
    | none | some .absent => (Entries.erase key registry, .ok false)
    | some _ =>
      (Entries.erase key registry,
        if key.isTooLong then .fail (.unwritable (.tooLong Numeral.digitLimit))
        else do
          Traced.log .info logger ("Unregistered service: " ++ key.shown)
          return true)

/-- The service bound to a name, if there is one. -/
def find (registry : Registry) (name : Value) : Except Misuse (Option Service) :=
  name.asKey.map fun key =>
    match Entries.get? key registry with
    | none | some .absent => none
    | some service => some service

/-- Whether a name is bound, be it to nothing. -/
def isRegistered (registry : Registry) (name : Value) : Except Misuse Bool :=
  name.asKey.map fun key => Entries.has key registry

/-- The registry after a write into settings. -/
def amend (edit : Settings.Edit) (registry : Registry) : Registry :=
  registry.map fun entry => (entry.1, entry.2.amend edit)

/-- The names that are bound, in ascending order, unless two of them that come to be compared cannot be. -/
def names (registry : Registry) : Except Misuse (List Scalar) :=
  Ranking.sortM Scalar.comesBefore (Entries.keys registry)

end Registry

end Switchboard
