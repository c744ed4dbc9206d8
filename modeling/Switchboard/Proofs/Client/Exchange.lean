import Switchboard.Client

/-!
# Exchanges with a remote authority

Whatever the network makes of it, a question is one request, and it is answered by one kind of
reply only. Every other reply is a failure, with nothing logged.
-/

namespace Switchboard

/-- Whether a request was answered, with a good status, by a map that holds a truth value under
`result`. -/
def Reply.Holds (reply : Reply) (answer : Bool) : Prop :=
  ∃ fields, reply = .answered none (.ok (.map fields)) ∧
    Entries.get? (.text "result") fields = some (.bool answer)

namespace Client

/-- The request that asks a question about a number. -/
def request (client : Client) (question : Question) (number : String) : Request :=
  .posted client.inSession (client.url question) number client.timeout.value

/-- What is noted of an answer. -/
def answerNote (question : Question) (answer : Bool) : Record :=
  ⟨.debug, logger, question.path ++ " answered " ++ (Scalar.bool answer).literal⟩

/-- A body has a result exactly where it is a map with a truth value under this name. -/
theorem resultOf?_eq_some_iff (body : Value) (answer : Bool) :
    resultOf? body = some answer ↔
      ∃ fields, body = .map fields ∧
        Entries.get? (.text "result") fields = some (.bool answer) := by
  constructor
  · intro found
    unfold resultOf? at found
    split at found
    next fields =>
      split at found
      next held entry =>
        obtain rfl := Option.some.inj found
        exact ⟨fields, rfl, entry⟩
      next => contradiction
    next => contradiction
  · rintro ⟨fields, rfl, entry⟩
    simp only [resultOf?, entry]

/-- Only a reply that holds a truth value is answered with one. -/
theorem judge_eq_ok_iff (url : String) (reply : Reply) (answer : Bool) :
    judge url reply = .ok answer ↔ reply.Holds answer := by
  constructor
  · intro judged
    rcases reply with failure | ⟨_ | failure, failure | body⟩
    · simp [judge, Reply.body] at judged
    · simp [judge, Reply.body] at judged
    · cases found : resultOf? body with
      | none => simp [judge, Reply.body, found] at judged
      | some held =>
        obtain rfl : held = answer := by simpa [judge, Reply.body, found] using judged
        obtain ⟨fields, rfl, entry⟩ := (resultOf?_eq_some_iff body held).mp found
        exact ⟨fields, rfl, entry⟩
    · simp [judge, Reply.body] at judged
    · simp [judge, Reply.body] at judged
  · rintro ⟨fields, rfl, entry⟩
    have found := (resultOf?_eq_some_iff (.map fields) answer).mpr ⟨fields, rfl, entry⟩
    simp [judge, Reply.body, found]

variable {client : Client} {question : Question} {number : String} {reply : Reply}

/-- A client that finds an answer gives and logs it. -/
theorem ask_of_ok {answer : Bool} (judged : judge (client.url question) reply = .ok answer) :
    client.ask question number reply =
      ⟨.ok answer,
        [.sent (client.request question number), .logged (answerNote question answer)]⟩ := by
  rw [ask, judged]
  rfl

/-- A client that fails has posted its request and logs nothing. -/
theorem ask_of_error {failure : Failure}
    (judged : judge (client.url question) reply = .error failure) :
    client.ask question number reply =
      ⟨.error failure, [.sent (client.request question number)]⟩ := by
  rw [ask, judged]
  rfl

end Client

end Switchboard
