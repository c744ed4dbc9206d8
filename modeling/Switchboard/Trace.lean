import Switchboard.Value

/-!
# What an operation leaves behind

Besides its result an operation leaves a trace: the records that it wrote to the log and the requests that it
sent out, in the order in which they happened. An operation that fails keeps the trace up to the failure.
-/

namespace Switchboard

/-- How grave a record is. -/
inductive Severity where
  | debug | info | warning | error | critical
deriving DecidableEq, Repr

namespace Severity

/-- How a severity is called in a line. -/
def name : Severity → String
  | .debug => "DEBUG"
  | .info => "INFO"
  | .warning => "WARNING"
  | .error => "ERROR"
  | .critical => "CRITICAL"

/-- The number by which records are held against the levels of loggers and handlers. -/
def number : Severity → Nat
  | .debug => 10
  | .info => 20
  | .warning => 30
  | .error => 40
  | .critical => 50

end Severity

/-- What a logger is given to write. -/
structure Record where
  severity : Severity
  logger : String
  message : String
deriving DecidableEq, Repr

/-- What an authority can be asked about a number: whether it is an emergency number where the caller is, and
whether it might be dialled as one. -/
inductive Question where
  | localNumber | potentialNumber
deriving DecidableEq, Repr

/-- A request sent out of the library. -/
inductive Request where
  /-- An authority was asked about a number. -/
  | asked (authority : String) (question : Question) (number : String)
  /-- A number was posted to an address of the network. -/
  | posted (inSession : Bool) (url number : String) (timeout : Value)
  /-- The installed components of a capability were asked for. -/
  | queried (capability : String)
deriving Repr

/-- What can be seen of a run from outside. -/
inductive Event where
  | logged (record : Record)
  | sent (request : Request)
deriving Repr

/-- What a run did, in order. -/
abbrev Trace := List Event

namespace Trace

/-- What was logged. -/
def records (trace : Trace) : List Record :=
  trace.filterMap fun
    | .logged record => some record
    | .sent _ => none

/-- What was sent. -/
def requests (trace : Trace) : List Request :=
  trace.filterMap fun
    | .sent request => some request
    | .logged _ => none

/-- Nothing done is nothing logged. -/
@[simp] theorem records_nil : records [] = [] := rfl

/-- Nothing done is nothing sent. -/
@[simp] theorem requests_nil : requests [] = [] := rfl

/-- What is logged is a record. -/
@[simp] theorem records_logged (record : Record) (rest : Trace) :
    records (.logged record :: rest) = record :: records rest := rfl

/-- What is sent is no record. -/
@[simp] theorem records_sent (request : Request) (rest : Trace) :
    records (.sent request :: rest) = records rest := rfl

/-- What is logged is no request. -/
@[simp] theorem requests_logged (record : Record) (rest : Trace) :
    requests (.logged record :: rest) = requests rest := rfl

/-- What is sent is a request. -/
@[simp] theorem requests_sent (request : Request) (rest : Trace) :
    requests (.sent request :: rest) = request :: requests rest := rfl

/-- The records of two runs stand one after the other. -/
@[simp] theorem records_append (first second : Trace) :
    records (first ++ second) = records first ++ records second :=
  List.filterMap_append

/-- The requests of two runs stand one after the other. -/
@[simp] theorem requests_append (first second : Trace) :
    requests (first ++ second) = requests first ++ requests second :=
  List.filterMap_append

end Trace

section Naming

variable {Fault Other Result : Type} {name : Fault → Other}

/-- A result is not renamed. -/
@[simp] theorem mapError_ok (result : Result) :
    (Except.ok result).mapError name = .ok result := rfl

/-- A fault is renamed. -/
@[simp] theorem mapError_error (fault : Fault) :
    (Except.error fault : Except Fault Result).mapError name = .error (name fault) := rfl

/-- Naming the fault of an outcome anew makes no result. -/
theorem mapError_eq_ok_iff {outcome : Except Fault Result} {result : Result} :
    outcome.mapError name = .ok result ↔ outcome = .ok result := by
  cases outcome <;> simp

end Naming

/-- What is done one after the other has a result if both steps have one. -/
theorem bind_eq_ok_iff {Fault Result Next : Type} {outcome : Except Fault Result}
    {next : Result → Except Fault Next} {last : Next} :
    (outcome >>= next) = .ok last ↔ ∃ result, outcome = .ok result ∧ next result = .ok last := by
  cases outcome <;> simp [bind, Except.bind]

/-- What does nothing has its own result. -/
@[simp] theorem pure_eq_ok_iff {Fault Result : Type} {result other : Result} :
    (pure result : Except Fault Result) = .ok other ↔ result = other :=
  Except.ok.injEq result other ▸ Iff.rfl

/-- A result together with the trace of the operation. -/
structure Traced (Fault Result : Type) where
  result : Except Fault Result
  trace : Trace

namespace Traced

variable {Fault Other Result Next : Type}

/-- A result, with nothing done. -/
def ok (result : Result) : Traced Fault Result := ⟨.ok result, []⟩

/-- A fault, with nothing done. -/
def fail (fault : Fault) : Traced Fault Result := ⟨.error fault, []⟩

/-- Goes on with a result, after the trace so far; a failure stops. -/
def bind (first : Traced Fault Result) (next : Result → Traced Fault Next) : Traced Fault Next :=
  match first.result with
  | .error fault => ⟨.error fault, first.trace⟩
  | .ok result => ⟨(next result).result, first.trace ++ (next result).trace⟩

/-- What is done next is done only after a result, and the trace of a failed step stays. -/
instance : Monad (Traced Fault) where
  pure := ok
  bind := bind

/-- A result without a trace. -/
def lift (result : Except Fault Result) : Traced Fault Result := ⟨result, []⟩

/-- Names the fault of a part as a fault of the whole. -/
def mapFault (name : Fault → Other) (traced : Traced Fault Result) : Traced Other Result :=
  ⟨traced.result.mapError name, traced.trace⟩

/-- Writes a record. -/
def log (severity : Severity) (logger message : String) : Traced Fault Unit :=
  ⟨.ok (), [.logged ⟨severity, logger, message⟩]⟩

/-- Sends a request. -/
def send (request : Request) : Traced Fault Unit := ⟨.ok (), [.sent request]⟩

/-- The result of two steps is that of their results. -/
theorem result_bind (first : Traced Fault Result) (next : Result → Traced Fault Next) :
    (first >>= next).result = first.result.bind fun result => (next result).result := by
  change (bind first next).result = _
  unfold bind
  cases first.result <;> rfl

/-- What is done one after the other has a result if both steps have one. -/
theorem bind_eq_ok_iff {first : Traced Fault Result} {next : Result → Traced Fault Next} {last : Next} :
    (first >>= next).result = .ok last ↔
      ∃ result, first.result = .ok result ∧ (next result).result = .ok last := by
  rw [result_bind]
  cases first.result <;> simp [Except.bind]

/-- Where each of two steps does the same to something else, so do both together. -/
theorem result_bind_map {Changed After : Type} {change : Result → Changed} {finish : Next → After}
    {first : Traced Fault Result} {other : Traced Fault Changed} {next : Result → Traced Fault Next}
    {after : Changed → Traced Fault After} (begins : other.result = first.result.map change)
    (goesOn : ∀ result, (after (change result)).result = (next result).result.map finish) :
    (other >>= after).result = (first >>= next).result.map finish := by
  rw [result_bind, result_bind, begins]
  cases first.result with
  | error fault => rfl
  | ok result => exact goesOn result

/-- Of two steps, either the first one fails, or the second one does with what the first one gave.
-/
theorem bind_eq_error_iff {first : Traced Fault Result} {next : Result → Traced Fault Next}
    {fault : Fault} :
    (first >>= next).result = .error fault ↔
      first.result = .error fault ∨
        ∃ result, first.result = .ok result ∧ (next result).result = .error fault := by
  rw [result_bind]
  cases first.result <;> simp [Except.bind]

/-- Where the whole does not fail in a way, no step of it does. -/
theorem ne_error_of_bind {first : Traced Fault Result} {next : Result → Traced Fault Next}
    {fault : Fault} (safe : (first >>= next).result ≠ .error fault) :
    first.result ≠ .error fault ∧
      ∀ result, first.result = .ok result → (next result).result ≠ .error fault := by
  rw [Ne, bind_eq_error_iff, not_or] at safe
  exact ⟨safe.1, fun result ended failed => safe.2 ⟨result, ended, failed⟩⟩

/-- What does nothing has its own result. -/
@[simp] theorem result_pure (result : Result) : (pure result : Traced Fault Result).result = .ok result :=
  rfl

/-- A lifted outcome has its own result. -/
@[simp] theorem result_lift (result : Except Fault Result) : (lift result).result = result := rfl

/-- To log does not fail. -/
@[simp] theorem result_log (severity : Severity) (logger message : String) :
    (log severity logger message : Traced Fault Unit).result = .ok () := rfl

/-- To fail has no result. -/
@[simp] theorem result_fail (fault : Fault) : (fail fault : Traced Fault Result).result = .error fault :=
  rfl

end Traced

end Switchboard
