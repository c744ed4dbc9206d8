import Switchboard.Proofs.Classifier.Asking
import Switchboard.Proofs.Registry.History

/-!
# Failing closed

A classifier confirms a number only when the service that its name is bound to at the time of the
question answers with the truth value true. In every other case it answers false, whatever is
bound to the name, however the service fails and whatever the network does. What keeps the service
from answering is logged once.

To log a failure it has to say what it is, and that is asked of the services that are bound
(`Service.Tells`). It holds of clients wherever the failures of the network can say what they are
(`Service.remote_tells`). Where a failure cannot say what it is, the question fails as saying so does, and
nothing is confirmed.
-/

namespace Switchboard

namespace Classifier

/-- The errors among the records that a classifier writes. -/
def errors (trace : Trace) : List Record :=
  trace.records.filter fun record => record.severity = .error && record.logger = logger

/-- Why a question has no answer from what the name of the authority is bound to. -/
inductive Unanswered (handle : Option Service) (question : Question) (number : String)
    (reply : Reply) : Prop where
  | unbound (missing : handle = none)
  | lacking (service : Service) (found : handle = some service) (lacks : service.Lacks question)
  | raised (service : Service) (found : handle = some service) (failure : Failure)
    (raises : service.Raises question number reply failure)

/-- What is promised of a question about a number, whatever its authority is bound to. -/
structure FailsClosed (handle : Option Service) (question : Question) (number : String)
    (reply : Reply) (asked : Traced RegistryFault Bool) : Prop where
  /-- The question is answered, and confirmed exactly where the service answers with true itself. -/
  result : ∃ confirmed, asked.result = .ok confirmed ∧
    (confirmed = true ↔ ∃ service, handle = some service ∧
      service.Answers question number reply (.bool true))
  /-- A client confirms exactly where the network brings a map with true under `result`. -/
  remote : ∀ client, handle = some (.remote client) → (asked.result = .ok true ↔ reply.Holds true)
  requests : asked.trace.requests = handle.elim [] fun service => service.requests question number
  atMostOne : asked.trace.requests.length ≤ 1
  unchanged : ∀ request ∈ asked.trace.requests, request.IsAbout number
  /-- One error is logged where there is no answer, and none otherwise. -/
  errors : (Unanswered handle question number reply → (errors asked.trace).length = 1) ∧
    (¬ Unanswered handle question number reply → Classifier.errors asked.trace = [])

variable {question : Question} {number : String} {reply : Reply}

/-- The errors of two runs stand one after the other. -/
@[simp] theorem errors_append (first second : Trace) :
    errors (first ++ second) = errors first ++ errors second := by
  simp [errors]

/-- No service writes errors to the logger of the classifier. -/
theorem errors_ask (service : Service) :
    errors (service.ask question number reply).trace = [] := by
  cases service with
  | absent => simp [Service.ask, Traced.fail, errors]
  | mute => simp [Service.ask, Traced.fail, errors]
  | own id respond =>
    cases responds : respond question with
    | none => simp [Service.ask_own_of_none responds, Traced.fail, errors]
    | some operation => simp [Service.ask_own_of_some responds, errors]
  | remote client =>
    cases judged : Client.judge (client.url question) reply with
    | error failure => simp [Service.ask_remote_of_error judged, errors]
    | ok held => simp [Service.ask_remote_of_ok judged, errors, Client.answerNote]

/-- What is bound leaves a question without an answer where asking it fails. -/
theorem unanswered_some_iff (service : Service) :
    Unanswered (some service) question number reply ↔
      ∃ failure, (service.ask question number reply).result = .error failure := by
  rw [Service.ask_eq_error_iff]
  constructor
  · rintro (⟨⟨⟩⟩ | ⟨_, ⟨⟩, lacks⟩ | ⟨_, ⟨⟩, failure, raises⟩)
    · exact .inl lacks
    · exact .inr ⟨failure, raises⟩
  · rintro (lacks | ⟨failure, raises⟩)
    · exact .lacking service rfl lacks
    · exact .raised service rfl failure raises

/-- A name that can be written is refused with one record. -/
theorem refuse_of_writable {name : Value} (writable : name.isTooLong = false) (note : String) :
    refuse name (.ok note) = ⟨.ok false, [.logged ⟨.error, logger, note⟩]⟩ := by
  simp only [refuse, writable]
  rfl

/-- A failure that says what it is has a note. -/
theorem failureNote_of_told {failure : Failure} (told : failure.IsTold) (question : Question)
    (name : Value) : ∃ note, failureNote question name failure = .ok note := by
  obtain ⟨text, made⟩ := told
  exact ⟨_, by rw [failureNote, made]; rfl⟩

/-- A confirmation is that the service answered with the truth value true. It adds to the trace
that the service failed, if it did. -/
theorem confirm_exact (question : Question) {name : Value} (writable : name.isTooLong = false)
    (asked : Traced Failure Value)
    (told : ∀ failure, asked.result = .error failure → failure.IsTold) :
    ∃ confirmed notes, confirm question name asked = ⟨.ok confirmed, asked.trace ++ notes⟩ ∧
      (confirmed = true ↔ asked.result = .ok (.bool true)) ∧ Trace.requests notes = [] ∧
      ((∃ failure, asked.result = .error failure) → (errors notes).length = 1) ∧
      ((¬ ∃ failure, asked.result = .error failure) → errors notes = []) := by
  unfold confirm
  split
  next held answered =>
    refine ⟨held, [], ?_, ?_, rfl, ?_, fun _ => rfl⟩
    · rw [List.append_nil]
    · simp [answered]
    · simp [answered]
  next answer notBool answered =>
    have different : answer ≠ .bool true := notBool true
    refine ⟨false, [], ?_, ?_, rfl, ?_, fun _ => rfl⟩
    · rw [List.append_nil]
    · simp [answered, different]
    · simp [answered]
  next failure failed =>
    obtain ⟨note, noted⟩ := failureNote_of_told (told failure failed) question name
    refine ⟨false, [.logged ⟨.error, logger, note⟩], ?_, ?_, rfl, ?_, ?_⟩
    · rw [noted, refuse_of_writable writable]
    · simp [failed]
    · simp [errors]
    · simp [failed]

/-- Where the failure of a service cannot say what it is, the question fails as saying so does. -/
theorem confirm_of_untold (question : Question) {name : Value} (writable : name.isTooLong = false)
    {asked : Traced Failure Value} {failure cause : Failure} (failed : asked.result = .error failure)
    (untold : failure.message = .error cause) :
    confirm question name asked = ⟨.error (.failed cause), asked.trace⟩ := by
  have unnoted : failureNote question name failure = .error cause := by
    rw [failureNote, untold]
    rfl
  simp only [confirm, failed, unnoted, refuse, writable]
  simp [Traced.lift, bind, Traced.bind]

/-- Asking the service that is bound fails closed. -/
theorem confirm_failsClosed {name : Value} (writable : name.isTooLong = false) (service : Service)
    (tells : service.Tells question number reply) :
    FailsClosed (some service) question number reply
      (confirm question name (service.ask question number reply)) := by
  obtain ⟨confirmed, notes, whole, isTrue, silent, noted, unnoted⟩ :=
    confirm_exact question writable (service.ask question number reply)
      fun _ failed => Service.isTold_of_ask tells failed
  rw [Service.ask_eq_ok_iff] at isTrue
  rw [← unanswered_some_iff] at noted unnoted
  have requests : (service.ask question number reply).trace.requests ++ Trace.requests notes =
      service.requests question number := by
    rw [Service.ask_requests, silent, List.append_nil]
  rw [whole]
  constructor
  case result => exact ⟨confirmed, rfl, by simpa using isTrue⟩
  case remote =>
    rintro client ⟨⟩
    rw [← Service.remote_answers_true_iff client, ← isTrue]
    simp
  case requests => simpa using requests
  case atMostOne => simpa [← requests] using service.requests_length question number
  case unchanged => simpa [← requests] using service.requests_isAbout question number
  case errors => simpa [errors_ask] using And.intro noted unnoted

/-- Where nothing is bound, nothing is asked. -/
theorem refuse_failsClosed {name : Value} (writable : name.isTooLong = false) (note : String) :
    FailsClosed none question number reply (refuse name (.ok note)) := by
  have unanswered : Unanswered none question number reply := .unbound rfl
  rw [refuse_of_writable writable]
  constructor
  case result => exact ⟨false, rfl, by simp⟩
  case remote => simp
  case requests => rfl
  case atMostOne => simp
  case unchanged => simp
  case errors => exact ⟨fun _ => by simp [errors], fun answered => absurd unanswered answered⟩

/-- A name that is a text can be written. -/
theorem isTooLong_of_text {key : Scalar} (isText : key.kind = .text) :
    (Value.scalar key).isTooLong = false :=
  Scalar.isTooLong_of_text isText

/-- Whether a service that is bound, if there is one, says what went wrong when it fails. -/
def Tells (handle : Option Service) (question : Question) (number : String) (reply : Reply) : Prop :=
  ∀ service, handle = some service → service.Tells question number reply

end Classifier

end Switchboard
