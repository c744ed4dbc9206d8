import Switchboard.Classifier
import Switchboard.Proofs.Client.Outcome

/-!
# Asking a service

A service answers a question, or it has no operation for it, or its operation fails; asking it
ends accordingly. It is asked with one request, about the number that is asked about, or with none
where it has no operation. A client has an operation for every question, and answers it where the
network brings a truth value.
-/

namespace Switchboard

/-- Whether a request is about a number. -/
def Request.IsAbout (number : String) : Request → Prop
  | .asked _ _ sent | .posted _ _ sent _ => sent = number
  | .queried _ => False

namespace Service

/-- Whether a service has an operation for a question and answers it. -/
def Answers (service : Service) (question : Question) (number : String) (reply : Reply)
    (answer : Value) : Prop :=
  match service with
  | .own _ respond =>
    ∃ operation, respond question = some operation ∧ operation number = .ok answer
  | .remote _ => ∃ held, reply.Holds held ∧ answer = .bool held
  | .absent | .mute => False

/-- Whether a service has no operation for a question. -/
def Lacks (service : Service) (question : Question) : Prop :=
  match service with
  | .own _ respond => respond question = none
  | .remote _ => False
  | .absent | .mute => True

/-- Whether a service has an operation for a question and it fails. -/
def Raises (service : Service) (question : Question) (number : String) (reply : Reply)
    (failure : Failure) : Prop :=
  match service with
  | .own _ respond =>
    ∃ operation, respond question = some operation ∧ operation number = .error failure
  | .remote client => Client.judge (client.url question) reply = .error failure
  | .absent | .mute => False

/-- Whether a service that fails at a question says what went wrong. -/
def Tells (service : Service) (question : Question) (number : String) (reply : Reply) : Prop :=
  ∀ failure, service.Raises question number reply failure → failure.IsTold

/-- The requests of asking a service: one where there is an operation for the question. -/
def requests (service : Service) (question : Question) (number : String) : List Request :=
  match service with
  | .own id respond => ((respond question).map fun _ => .asked id question number).toList
  | .remote client => [client.request question number]
  | .absent | .mute => []

variable (service : Service) (question : Question) (number : String) (reply : Reply)

/-- A service sends one request at most. -/
theorem requests_length : (service.requests question number).length ≤ 1 := by
  cases service with
  | own id respond => cases respond question <;> simp [requests]
  | remote client => simp [requests]
  | absent => simp [requests]
  | mute => simp [requests]

/-- What a service sends is about the number. -/
theorem requests_isAbout :
    ∀ request ∈ service.requests question number, request.IsAbout number := by
  cases service with
  | own id respond => cases respond question <;> simp [requests, Request.IsAbout]
  | remote client => simp [requests, Client.request, Request.IsAbout]
  | absent => simp [requests]
  | mute => simp [requests]

variable {service question number reply}

/-- A service of its own that lacks the operation fails, and sends nothing. -/
theorem ask_own_of_none {id : String} {respond : Question → Option (String → Except Failure Value)}
    (lacks : respond question = none) :
    (Service.own id respond).ask question number reply = .fail (lacking id question) := by
  simp only [ask, lacks]

/-- A service of its own does what its operation does. -/
theorem ask_own_of_some {id : String} {respond : Question → Option (String → Except Failure Value)}
    {operation : String → Except Failure Value} (responds : respond question = some operation) :
    (Service.own id respond).ask question number reply =
      ⟨operation number, [.sent (.asked id question number)]⟩ := by
  simp only [ask, responds]
  rfl

/-- A client gives the answer of the network, and logs it. -/
theorem ask_remote_of_ok {client : Client} {held : Bool}
    (judged : Client.judge (client.url question) reply = .ok held) :
    (Service.remote client).ask question number reply =
      ⟨.ok (.bool held),
        [.sent (client.request question number), .logged (Client.answerNote question held)]⟩ := by
  rw [ask, Client.ask_of_ok judged]
  rfl

/-- A client fails where what the network did is a failure. -/
theorem ask_remote_of_error {client : Client} {failure : Failure}
    (judged : Client.judge (client.url question) reply = .error failure) :
    (Service.remote client).ask question number reply =
      ⟨.error failure, [.sent (client.request question number)]⟩ := by
  rw [ask, Client.ask_of_error judged]
  rfl

/-- Asking a service gives its answer, where it answers. -/
theorem ask_eq_ok_iff (service : Service) (answer : Value) :
    (service.ask question number reply).result = .ok answer ↔
      service.Answers question number reply answer := by
  cases service with
  | absent => simp [ask, Traced.fail, Answers]
  | mute => simp [ask, Traced.fail, Answers]
  | own id respond =>
    cases responds : respond question with
    | none => simp [ask_own_of_none responds, Traced.fail, Answers, responds]
    | some operation => simp [ask_own_of_some responds, Answers, responds]
  | remote client =>
    cases judged : Client.judge (client.url question) reply with
    | error failure =>
      simp [ask_remote_of_error judged, Answers, ← Client.judge_eq_ok_iff (client.url question),
        judged]
    | ok held =>
      simp [ask_remote_of_ok judged, Answers, ← Client.judge_eq_ok_iff (client.url question),
        judged, eq_comm]

/-- Asking a service fails as its operation does, or by saying that there is none. -/
theorem ask_eq_error_cases {failure : Failure}
    (failed : (service.ask question number reply).result = .error failure) :
    service.Raises question number reply failure ∨ ∃ kind, failure = lacking kind question := by
  cases service with
  | absent => exact .inr ⟨_, (Except.error.inj failed).symm⟩
  | mute => exact .inr ⟨_, (Except.error.inj failed).symm⟩
  | own id respond =>
    cases responds : respond question with
    | none =>
      rw [ask_own_of_none responds] at failed
      exact .inr ⟨id, (Except.error.inj failed).symm⟩
    | some operation =>
      rw [ask_own_of_some responds] at failed
      exact .inl ⟨operation, responds, failed⟩
  | remote client =>
    cases judged : Client.judge (client.url question) reply with
    | error cause =>
      rw [ask_remote_of_error judged] at failed
      exact .inl (Except.error.inj failed ▸ judged)
    | ok held => simp [ask_remote_of_ok judged] at failed

/-- What a service raises is what it fails with. -/
theorem ask_eq_error_of_raises {failure : Failure}
    (raises : service.Raises question number reply failure) :
    (service.ask question number reply).result = .error failure := by
  cases service with
  | absent => exact raises.elim
  | mute => exact raises.elim
  | own id respond =>
    obtain ⟨operation, responds, failed⟩ := raises
    rw [ask_own_of_some responds]
    exact failed
  | remote client => rw [ask_remote_of_error raises]

/-- A service whose failures say what they are is asked with an answer or such a failure. -/
theorem isTold_of_ask (tells : service.Tells question number reply) {failure : Failure}
    (failed : (service.ask question number reply).result = .error failure) : failure.IsTold := by
  rcases ask_eq_error_cases failed with raises | ⟨kind, rfl⟩
  · exact tells failure raises
  · exact Failure.isTold_told _ _

/-- Asking a service fails where it has no operation or its operation fails. -/
theorem ask_eq_error_iff (service : Service) :
    (∃ failure, (service.ask question number reply).result = .error failure) ↔
      service.Lacks question ∨ ∃ failure, service.Raises question number reply failure := by
  cases service with
  | absent => simp [ask, Traced.fail, Lacks]
  | mute => simp [ask, Traced.fail, Lacks]
  | own id respond =>
    cases responds : respond question with
    | none => simp [ask_own_of_none responds, Traced.fail, Lacks, responds]
    | some operation => simp [ask_own_of_some responds, Lacks, Raises, responds]
  | remote client =>
    cases judged : Client.judge (client.url question) reply with
    | error failure => simp [ask_remote_of_error judged, Lacks, Raises, judged]
    | ok held => simp [ask_remote_of_ok judged, Lacks, Raises, judged]

/-- What a service is asked is what it sends. -/
theorem ask_requests (service : Service) :
    (service.ask question number reply).trace.requests = service.requests question number := by
  cases service with
  | absent => simp [ask, Traced.fail, requests]
  | mute => simp [ask, Traced.fail, requests]
  | own id respond =>
    cases responds : respond question with
    | none => simp [ask_own_of_none responds, Traced.fail, requests, responds]
    | some operation => simp [ask_own_of_some responds, requests, responds]
  | remote client =>
    cases judged : Client.judge (client.url question) reply with
    | error failure => simp [ask_remote_of_error judged, requests]
    | ok held => simp [ask_remote_of_ok judged, requests]

/-- A client says what went wrong where the network does. -/
theorem remote_tells (client : Client) (told : ∀ failure, reply.Fails failure → failure.IsTold) :
    (Service.remote client).Tells question number reply :=
  fun _ judged => Client.isTold_of_judge told judged

/-- A client answers true exactly where the network brings true. -/
theorem remote_answers_true_iff (client : Client) :
    (Service.remote client).Answers question number reply (.bool true) ↔ reply.Holds true := by
  constructor
  · rintro ⟨held, holds, same⟩
    obtain rfl : true = held := by simpa using same
    exact holds
  · intro holds
    exact ⟨true, holds, rfl⟩

end Service

end Switchboard
