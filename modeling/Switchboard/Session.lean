import Switchboard.Classifier
import Switchboard.Selection
import Switchboard.Settings.Store

/-!
# Sessions

A session holds what the parts of the library share while a program runs: the files and variables around it,
a store of settings, a registry and a classifier. Beside its own store and registry there is one of each that
the whole process shares; they come into being when first asked for, and the session can turn to them.

Every command has a moment of its own. It marks the maps that come into being, and the numbers that are none
and come with the command: no such number of one command is the same key as that of another.
-/

namespace Switchboard

/-- The version of the library. -/
def version : String := "1.0.0"

/-- Whose registry a classifier asks. -/
inductive Place where
  | own | process
deriving DecidableEq, Repr

/-- What a program that uses the library holds. -/
structure Session where
  /-- The moment of the last command. -/
  moment : Nat := 0
  surroundings : Settings.Surroundings := {}
  installed : Selection.Installed := []
  store : Settings.Store := { folder := "config" }
  /-- The store of the process, once it was asked for. -/
  processStore : Option Settings.Store := none
  usesProcessStore : Bool := false
  registry : Registry := []
  processRegistry : Registry := []
  usesProcessRegistry : Bool := false
  classifier : Classifier Place := .unavailable

/-- Why a command is not answered. -/
inductive SessionFault where
  | settings (fault : Settings.Fault)
  | registry (fault : RegistryFault)
  | misuse (misuse : Misuse)
deriving DecidableEq, Repr

/-- What is said of a fault. -/
def SessionFault.message : SessionFault → String
  | .settings fault => fault.message
  | .registry fault => fault.message
  | .misuse fault => fault.message

/-- What a session can be told. -/
inductive Command where
  | load
  | get (key : String) (default : Value)
  | set (key : String) (item : Value)
  | dump
  | enabled
  | serviceName
  | baseUrl
  | timeout
  | classes (role : Selection.Role)
  | placeFile (path : String) (content : Option Settings.Content)
  | setVariable (name : String) (text : Option String)
  | useProcessStore (folder : String)
  | register (name : Value) (service : Service)
  | unregister (name : Value)
  | service (name : Value)
  | isRegistered (name : Value)
  | names
  | useProcessRegistry
  | useUnavailable
  | useRemote (name : Value)
  | create (inProcess : Bool)
  | ask (question : Question) (number : String) (reply : Reply)
  | isEmergency (address : Option Address) (reply : Reply)
  | choose (role : Selection.Role)

/-- The command whose numbers that are none have a mark, where they may become keys. -/
def Command.marked (mark : Mark) : Command → Command
  | .set key item => .set key (item.marked mark)
  | .register name bound => .register (name.marked mark) bound
  | .unregister name => .unregister (name.marked mark)
  | .service name => .service (name.marked mark)
  | .isRegistered name => .isRegistered (name.marked mark)
  | .useRemote name => .useRemote (name.marked mark)
  | other => other

/-- What a session answers. -/
inductive Answer where
  | nothing
  | value (value : Value)
  | service (service : Option Service)
  | component (component : Option Component)
  | classifier (classifier : Classifier Place)

namespace Session

/-- The store that the session works with. -/
def currentStore (session : Session) : Settings.Store :=
  if session.usesProcessStore then session.processStore.getD session.store else session.store

/-- The session with another current store. -/
def withStore (session : Session) (store : Settings.Store) : Session :=
  if session.usesProcessStore then { session with processStore := some store }
  else { session with store }

/-- The registry that the session works with. -/
def currentPlace (session : Session) : Place :=
  if session.usesProcessRegistry then .process else .own

/-- The registry of a place. -/
def registryAt (session : Session) : Place → Registry
  | .own => session.registry
  | .process => session.processRegistry

/-- The session with another registry in a place. -/
def withRegistry (session : Session) (place : Place) (registry : Registry) : Session :=
  match place with
  | .own => { session with registry }
  | .process => { session with processRegistry := registry }

/-- The allow-list of a role. -/
def allowList (settings : Graph) : Selection.Role → Value
  | .dialer => Settings.dialerClasses settings
  | .inCall => Settings.inCallClasses settings

/-- The logger of the choice of components. -/
def componentLogger : String := "callroute.component_resolver"

/-- What is logged when no component is chosen. -/
def noComponentNote : Selection.Role → String
  | .dialer => "No allow-listed dialer component is installed"
  | .inCall => "No allow-listed in-call component is installed"

/-- Chooses the component of a role; the installed ones are asked for first. -/
def chooseComponent (session : Session) (role : Selection.Role) :
    Traced Misuse (Option Component) := do
  let chosen ←
    Selection.discover session.installed role (allowList session.currentStore.settings role)
  if chosen.isNone then
    Traced.log .warning componentLogger (noComponentNote role)
  return chosen

/-- Turns to the store of the process. It is loaded when it comes into being; if that fails it stays the store
of the process, but the session does not turn to it. -/
def useProcessStore (session : Session) (folder : String) :
    Session × Traced Settings.Fault Bool :=
  match session.processStore with
  | some _ => ({ session with usesProcessStore := true }, .ok session.usesProcessStore)
  | none =>
    let (store, traced) := ({ folder } : Settings.Store).load session.moment session.surroundings
    ( { session with processStore := some store, usesProcessStore := traced.result.toBool },
      do traced; return false )

/-- The settings that the session works with. -/
def settings (session : Session) : Graph := session.currentStore.settings

/-- Writes into the settings; clients that share what is written to see it. -/
def set (session : Session) (key : String) (item : Value) : Session :=
  let (store, edit) := session.currentStore.set session.moment key item
  let written := session.withStore store
  match edit with
  | none => written
  | some known =>
    { written with
      registry := session.registry.amend known
      processRegistry := session.processRegistry.amend known }

/-- The environment with a variable set, or not set any more. -/
def setVariable (environment : Settings.Environment) (name : String) (text : Option String) :
    Settings.Environment :=
  match text with
  | some written => Entries.put name written environment
  | none => Entries.erase name environment

/-- Carries out a command at the moment of the session. -/
def carryOut (session : Session) (command : Command) : Session × Traced SessionFault Answer :=
  let answer (value : Value) : Session × Traced SessionFault Answer :=
    (session, .ok (.value value))
  let current := session.registryAt session.currentPlace
  match command with
  | .load =>
    let (store, traced) := session.currentStore.load session.moment session.surroundings
    (session.withStore store, do (traced.mapFault .settings); return .nothing)
  | .get key default => answer (session.currentStore.get key default)
  | .set key item => (session.set key item, .ok .nothing)
  | .dump => answer session.settings.value
  | .enabled => answer (.bool (Settings.enabled session.settings))
  | .serviceName => answer (Settings.serviceName session.settings)
  | .baseUrl => answer (Settings.baseUrl session.settings)
  | .timeout => answer (Settings.timeout session.settings)
  | .classes role => answer (allowList session.settings role)
  | .placeFile _ none => (session, .ok .nothing)
  | .placeFile path (some content) =>
    let files := session.surroundings.files.place path content
    ({ session with surroundings := { session.surroundings with files } }, .ok .nothing)
  | .setVariable name text =>
    let environment := setVariable session.surroundings.environment name text
    ({ session with surroundings := { session.surroundings with environment } }, .ok .nothing)
  | .useProcessStore folder =>
    let (next, traced) := session.useProcessStore folder
    (next, do return .value (.bool (← traced.mapFault .settings)))
  | .register name service =>
    let (registry, traced) := current.register name service
    (session.withRegistry session.currentPlace registry,
      do (traced.mapFault .registry); return .nothing)
  | .unregister name =>
    let (registry, traced) := current.unregister name
    (session.withRegistry session.currentPlace registry,
      do return .value (.bool (← traced.mapFault .registry)))
  | .service name =>
    (session, do return .service (← Traced.lift ((current.find name).mapError .misuse)))
  | .isRegistered name =>
    (session, do
      return .value (.bool (← Traced.lift ((current.isRegistered name).mapError .misuse))))
  | .names =>
    (session, do
      return .value (.list ((← Traced.lift (current.names.mapError .misuse)).map .scalar)))
  | .useProcessRegistry =>
    ({ session with usesProcessRegistry := true },
      .ok (.value (.bool session.usesProcessRegistry)))
  | .useUnavailable => ({ session with classifier := .unavailable }, .ok .nothing)
  | .useRemote name =>
    ({ session with classifier := .remote session.currentPlace name }, .ok .nothing)
  | .create inProcess =>
    let place := if inProcess then .process else session.currentPlace
    let (registry, traced) :=
      Classifier.create session.settings session.currentStore.timeout place
        (session.registryAt place)
    let ensured := session.withRegistry place registry
    match traced.result with
    | .error _ => (ensured, do return .classifier (← traced.mapFault .registry))
    | .ok classifier =>
      ({ ensured with classifier }, do return .classifier (← traced.mapFault .registry))
  | .ask question number reply =>
    (session, do
      return .value (.bool (← (Classifier.classify session.registryAt session.classifier question
        number reply).mapFault .registry)))
  | .isEmergency address reply =>
    (session, do
      return .value (.bool (← (Classifier.isEmergency session.registryAt session.classifier address
        reply).mapFault .registry)))
  | .choose role =>
    (session, do return .component (← (session.chooseComponent role).mapFault .misuse))

/-- Takes the next moment and carries out a command in it. -/
def step (session : Session) (command : Command) : Session × Traced SessionFault Answer :=
  let moment := session.moment + 1
  { session with moment }.carryOut (command.marked (.given moment))

end Session

end Switchboard
