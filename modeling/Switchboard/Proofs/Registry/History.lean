import Mathlib.Data.List.Induction
import Switchboard.Registry

/-!
# Histories of a registry

A registry is what the calls to register and to unregister services have left of it. A call that
is refused leaves it as it is; every other call is about one name and decides, until the next call
about that name, what the name is bound to.
-/

namespace Switchboard

/-- Whether a service is one: nothing may be registered as well. -/
def Service.isPresent : Service → Bool
  | .absent => false
  | .mute | .remote _ | .own _ _ => true

namespace Registry

/-- A call that changes a registry. -/
inductive Call where
  | register (name : Value) (service : Service)
  | unregister (name : Value)

namespace Call

/-- The registry after a call, whatever the call comes to. -/
def after (registry : Registry) : Call → Registry
  | .register name service => (registry.register name service).1
  | .unregister name => (registry.unregister name).1

/-- The name that a call is about, unless it is refused: only what can be a key is a name, and
nothing is registered under a name that counts as false. -/
def key? : Call → Option Scalar
  | .register name _ => if name.isTruthy then name.asKey.toOption else none
  | .unregister name => name.asKey.toOption

/-- Whether a call is about a name. -/
def isAbout (key : Scalar) (call : Call) : Bool :=
  call.key?.any (· == key)

/-- What a call binds the name that it is about to. -/
def binding : Call → Option Service
  | .register _ service => some service
  | .unregister _ => none

end Call

/-- The registry after a history of calls. -/
def run (calls : List Call) : Registry :=
  calls.foldl Call.after []

/-- What a name is bound to by the last call about it. -/
def bound (calls : List Call) (key : Scalar) : Option Service :=
  (calls.reverse.find? (Call.isAbout key)).bind Call.binding

/-- The service that a name is bound to, if it is bound to one. -/
def handle (calls : List Call) (key : Scalar) : Option Service :=
  (bound calls key).filter Service.isPresent

/-- The last call is made on the registry that the others leave. -/
theorem run_concat (calls : List Call) (call : Call) :
    run (calls ++ [call]) = call.after (run calls) := by
  simp [run]

/-- The last call decides about its own name, the others decide about the rest. -/
theorem bound_concat (calls : List Call) (call : Call) (key : Scalar) :
    bound (calls ++ [call]) key = if call.isAbout key then call.binding else bound calls key := by
  cases about : call.isAbout key <;> simp [bound, about]

/-- Whatever a name is bound to, unregistering it takes it out. -/
theorem registry_unregister {registry : Registry} {name : Value} {key : Scalar}
    (asKey : name.asKey = .ok key) : (registry.unregister name).1 = Entries.erase key registry := by
  simp only [unregister, asKey]
  split <;> rfl

/-- Found under a name is what it is bound to, unless that is nothing. -/
theorem find_eq_ok (registry : Registry) (key : Scalar) : registry.find (.scalar key) =
    .ok ((Entries.get? key registry).filter Service.isPresent) := by
  rw [find, Value.asKey, Except.map]
  cases Entries.get? key registry with
  | none => rfl
  | some service => cases service <;> rfl

/-- A call binds the name that it is about and leaves all others. -/
theorem get?_after (registry : Registry) (call : Call) (key : Scalar) :
    Entries.get? key (call.after registry) =
      if call.isAbout key then call.binding else Entries.get? key registry := by
  cases call with
  | register name service =>
    by_cases truthy : name.isTruthy = true
    · cases asKey : name.asKey with
      | error misuse =>
        simp [Call.after, Call.isAbout, Call.key?, register, truthy, asKey, Except.toOption]
      | ok other =>
        simp [Call.after, Call.isAbout, Call.key?, Call.binding, register, truthy, asKey,
          Except.toOption, Entries.get?_put]
    · simp [Call.after, Call.isAbout, Call.key?, register, truthy]
  | unregister name =>
    cases asKey : name.asKey with
    | error misuse => simp [Call.after, Call.isAbout, Call.key?, unregister, asKey, Except.toOption]
    | ok other =>
      simp [Call.after, Call.isAbout, Call.key?, Call.binding, registry_unregister asKey, asKey,
        Except.toOption, Entries.get?_erase]

/-- After any history a name is bound to what the last call about it says. -/
theorem get?_run (calls : List Call) (key : Scalar) :
    Entries.get? key (run calls) = bound calls key := by
  induction calls using List.reverseRecOn with
  | nil => rfl
  | append_singleton calls call ih => rw [run_concat, bound_concat, get?_after, ih]

/-- Of the texts only the empty one is refused as a name. -/
theorem register_eq_ok_iff {key : Scalar} (isText : key.kind = .text) {registry : Registry}
    {service : Service} :
    (registry.register (.scalar key) service).2.result = .ok () ↔ key.isTruthy = true := by
  have writable := Scalar.isTooLong_of_text isText
  cases truthy : key.isTruthy <;> simp [register, Value.isTruthy, truthy, Value.asKey, writable]

/-- Finding a name after a history finds its handle. -/
theorem find_run (calls : List Call) (key : Scalar) :
    (run calls).find (.scalar key) = .ok (handle calls key) := by
  rw [find_eq_ok, get?_run, handle]

end Registry

end Switchboard
