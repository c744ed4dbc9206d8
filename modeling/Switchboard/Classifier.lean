import Switchboard.Address
import Switchboard.Logging.Structured
import Switchboard.Registry
import Switchboard.Settings.Builtin

/-!
# Classifying emergency numbers

The classifier asks the authority that is registered under a name at the time of the question. A number is
confirmed only when the authority answers with the truth value true; a missing authority, a failure and any
other answer are no confirmation, and all but the last are logged. A failure that cannot say what it is keeps
that from being logged, and the question fails with it.
-/

namespace Switchboard

/-- A classifier: none that asks, or one that asks the service of a name in a registry. `Place` says which
registry it is. -/
inductive Classifier (Place : Type) where
  | unavailable
  | remote (place : Place) (name : Value)

/-- The name of the operation that a question stands for, as it is logged. -/
def Question.operation : Question → String
  | .localNumber => "is_local_emergency_number"
  | .potentialNumber => "is_potential_local_emergency_number"

namespace Service

/-- The failure of something without the operation for a question. -/
def lacking (kind : String) (question : Question) : Failure :=
  .told .noOperation ("'" ++ kind ++ "' object has no attribute '" ++ question.operation ++ "'")

/-- Asks a service that is bound to a name. -/
def ask (service : Service) (question : Question) (number : String) (reply : Reply) :
    Traced Failure Value :=
  match service with
  | .remote client => do return .bool (← client.ask question number reply)
  | .own id respond =>
    match respond question with
    | none => .fail (lacking id question)
    | some answer => do
      Traced.send (.asked id question number)
      Traced.lift (answer number)
  | .absent | .mute => .fail (lacking "object" question)

end Service

namespace Classifier

/-- The logger of the classifier. -/
def logger : String := "callroute.emergency_classifier"

/-- What is logged when a service fails, or the failure to say why it does. -/
def failureNote (question : Question) (name : Value) (failure : Failure) : Except Failure String :=
  failure.message.map fun text =>
    match failure.kind with
    | .remote => s!"{question.operation}: remote call to '" ++ name.shown ++ "' failed: " ++ text
    | _ => s!"{question.operation}: service '" ++ name.shown ++ "' raised an error: " ++ text

/-- Logs why the service of a name does not confirm, if that can be told. -/
def refuse (name : Value) (note : Except Failure String) : Traced RegistryFault Bool :=
  if name.isTooLong then .fail (.unwritable (.tooLong Numeral.digitLimit))
  else do
    let written ← Traced.lift (note.mapError .failed)
    Traced.log .error logger written
    return false

/-- The outcome of asking, as a confirmation: only true confirms. -/
def confirm (question : Question) (name : Value) (asked : Traced Failure Value) :
    Traced RegistryFault Bool :=
  match asked.result with
  | .ok (.bool answer) => ⟨.ok answer, asked.trace⟩
  | .ok _ => ⟨.ok false, asked.trace⟩
  | .error failure =>
    let refused := refuse name (failureNote question name failure)
    ⟨refused.result, asked.trace ++ refused.trace⟩

/-- Asks the service registered under a name. -/
def query (registry : Registry) (name : Value) (question : Question) (number : String)
    (reply : Reply) : Traced RegistryFault Bool :=
  match registry.find name with
  | .error misuse => .fail (.unusable misuse)
  | .ok none =>
    refuse name (.ok (s!"{question.operation}: service '" ++ name.shown ++ "' is not available"))
  | .ok (some service) => confirm question name (service.ask question number reply)

/-- Asks through a classifier. -/
def classify {Place : Type} (registryOf : Place → Registry) (classifier : Classifier Place)
    (question : Question) (number : String) (reply : Reply) : Traced RegistryFault Bool :=
  match classifier with
  | .unavailable => .ok false
  | .remote place name => query (registryOf place) name question number reply

/-- Whether a dialled address is to be treated as an emergency call; no address is not. -/
def isEmergency {Place : Type} (registryOf : Place → Registry) (classifier : Classifier Place)
    (address : Option Address) (reply : Reply) : Traced RegistryFault Bool :=
  match address with
  | none => .ok false
  | some known => classify registryOf classifier .localNumber known.part reply

/-- Tells which classifier was chosen, if that can be written. -/
def announce (fields : List (String × Value)) : Traced RegistryFault Unit :=
  let entries : List (Scalar × Value) := fields.map fun field => (.text field.1, field.2)
  match Json.obstacle? (.map entries) with
  | some obstacle => .fail (.unwritable obstacle)
  | none =>
    Traced.log .info logger
      (Logging.Message.structured entries (.text "emergency_classifier_selected") none .info).text

/-- A client for a configured base URL, which must be a text. -/
def clientFor (url : Value) (timeout : Graph) : Except Misuse Client :=
  match url with
  | .text address => .ok (Client.ofUrl address timeout false)
  | .scalar (.halved points) => .ok (Client.ofUrl (Text.joined points) timeout false)
  | .scalar (.octets _) => .error .octetsLikeWanted
  | other => .error (.lacksOperation other.kind "rstrip")

/-- Registers a client for the configured base URL, unless there is no URL or the name is bound. -/
def ensureClient (registry : Registry) (name url : Value) (timeout : Graph) :
    Registry × Traced RegistryFault Unit :=
  if !url.isTruthy then (registry, .ok ())
  else
    match registry.isRegistered name with
    | .error misuse => (registry, .fail (.unusable misuse))
    | .ok true => (registry, .ok ())
    | .ok false =>
      match clientFor url timeout with
      | .error misuse => (registry, .fail (.unusable misuse))
      | .ok client => registry.register name (.remote client)

/-- Chooses the classifier that the settings ask for; `timeout` is how long they say to wait. -/
def create {Place : Type} (settings : Graph) (timeout : Graph) (place : Place)
    (registry : Registry) : Registry × Traced RegistryFault (Classifier Place) :=
  if !Settings.enabled settings then
    (registry, do
      announce [("variant", .text "unavailable")]
      return .unavailable)
  else
    let name := Settings.serviceName settings
    let url := Settings.baseUrl settings
    let (ensured, traced) := ensureClient registry name url timeout
    (ensured, do
      traced
      announce [("variant", .text "remote"), ("service_name", name), ("base_url", url)]
      return .remote place name)

end Classifier

end Switchboard
