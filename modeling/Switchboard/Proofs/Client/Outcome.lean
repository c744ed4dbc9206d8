import Mathlib.Data.List.TakeWhile
import Switchboard.Proofs.Client.Exchange
import Switchboard.Proofs.Json.Reading

/-!
# What becomes of a question

Whatever the network does, a question is posted once, to the base URL without the slashes at its end and
the path of the question. A failure at any stage of the reply is taken for one of the remote service, if
it is a failure of the request or of a value, and else passes through unchanged. Without a failure a truth
value under `result` is the answer, and every other value of JSON is a failure of the remote service
(`ask_settles`).

A failure of the remote service tells of what went wrong. So a failure of the request or of a value has to
say what it is (`Failure.IsTold`): the failure to say so is what comes out else. A body of another kind than
JSON need not be one that can be written into a message; if it is not, the failure to do so comes out.
-/

namespace Switchboard

/-- Whether a failure is one of the request, of whatever kind. -/
def FailureKind.IsRequest (kind : FailureKind) : Prop := ∃ failure, kind = .request failure

/-- Whether a failure is one of a value. A URL of the wrong form is one as well, besides a failure of the
request. -/
def FailureKind.IsValue (kind : FailureKind) : Prop := kind = .value ∨ kind = .request .invalidUrl

/-- The failure that a reply brings at one of its stages: nobody answers, the status tells of a failure, or
the body is not read. -/
inductive Reply.Fails : Reply → Failure → Prop
  | posting (failure : Failure) : Fails (.failed failure) failure
  | status (failure : Failure) (body : Except Failure Value) :
      Fails (.answered (some failure) body) failure
  | reading (failure : Failure) : Fails (.answered none (.error failure)) failure

namespace Failure

/-- A failure with a text says it. -/
theorem isTold_told (kind : FailureKind) (text : String) : (Failure.told kind text).IsTold := by
  cases kind <;> exact ⟨_, rfl⟩

end Failure

namespace Client

/-- A number of slashes. -/
def slashes (count : Nat) : String := String.ofList (List.replicate count '/')

/-- Whether a URL ends in no slash. -/
def IsTrimmed (url : String) : Prop := url.toList.getLast? ≠ some '/'

/-- Whether two URLs differ at most in how many slashes they end in. -/
def SameButSlashes (url other : String) : Prop :=
  ∃ stem few many, url = stem ++ slashes few ∧ other = stem ++ slashes many

/-- The slashes at the end are dropped. -/
theorem toList_trimUrl (url : String) :
    (trimUrl url).toList = (url.toList.reverse.dropWhile (· = '/')).reverse := by
  simp [trimUrl]

/-- Slashes at the end of a URL are trimmed. -/
theorem trimUrl_append_slashes (stem : String) (count : Nat) :
    trimUrl (stem ++ slashes count) = trimUrl stem := by
  rw [← String.toList_inj, toList_trimUrl, toList_trimUrl]
  simp [slashes]

/-- Nothing but slashes is trimmed. -/
theorem exists_eq_trimUrl_append (url : String) : ∃ count, url = trimUrl url ++ slashes count := by
  refine ⟨(url.toList.reverse.takeWhile (· = '/')).length, ?_⟩
  have trimmed : url.toList.reverse.takeWhile (· = '/') =
      List.replicate (url.toList.reverse.takeWhile (· = '/')).length '/' := by
    refine List.eq_replicate_of_mem fun c member => ?_
    simpa using List.mem_takeWhile_imp member
  rw [← String.toList_inj, String.toList_append, toList_trimUrl, slashes, String.toList_ofList,
    ← List.reverse_replicate, ← trimmed, ← List.reverse_append, List.takeWhile_append_dropWhile,
    List.reverse_reverse]

/-- All slashes are trimmed. -/
theorem isTrimmed_trimUrl (url : String) : IsTrimmed (trimUrl url) := by
  unfold IsTrimmed
  rw [toList_trimUrl, List.getLast?_reverse]
  intro isSlash
  have kept := List.head?_dropWhile_not (· = '/') url.toList.reverse
  simp [isSlash] at kept

/-- Addresses that differ in the slashes at the end are trimmed to the same. -/
theorem trimUrl_eq_of_sameButSlashes {url other : String} (same : SameButSlashes url other) :
    trimUrl url = trimUrl other := by
  obtain ⟨stem, few, many, rfl, rfl⟩ := same
  rw [trimUrl_append_slashes, trimUrl_append_slashes]

/-- Whether a failure is taken for one of the remote service. -/
def IsCaught (failure : Failure) : Prop :=
  failure.kind.IsRequest ∨ failure.kind.IsValue

/-- What is told in other words is a failure of the remote service. -/
theorem retell_of_told {failure : Failure} (told : failure.IsTold) (words : String) :
    ∃ text, retell words failure = .told .remote text := by
  obtain ⟨text, made⟩ := told
  exact ⟨words ++ text, by rw [retell, made]⟩

/-- A failure that cannot say what it is fails to be told, with its own cause. -/
theorem retell_of_untold {failure cause : Failure} (fails : failure.message = .error cause)
    (words : String) : retell words failure = cause := by
  rw [retell, fails]

/-- A failure of the request or of a value is told in other words. -/
theorem explain_of_caught {failure : Failure} (caught : IsCaught failure) (url : String) :
    ∃ words, explain url failure = retell words failure := by
  unfold explain
  rcases caught with ⟨inner, kind⟩ | kind | kind <;> rw [kind] <;> exact ⟨_, rfl⟩

/-- Any other failure passes through unchanged. -/
theorem explain_of_not_caught {failure : Failure} (passes : ¬IsCaught failure) (url : String) :
    explain url failure = failure := by
  unfold explain
  cases kind : failure.kind with
  | request inner => exact absurd (.inl ⟨inner, kind⟩) passes
  | value => exact absurd (.inr (.inl kind)) passes
  | _ => rfl

variable {question : Question} {number : String} {reply : Reply}

/-- What a client makes of a reply is the judgement of it. -/
theorem ask_result (client : Client) :
    (client.ask question number reply).result = judge (client.url question) reply := by
  cases judged : judge (client.url question) reply with
  | ok answer => rw [ask_of_ok judged]
  | error failure => rw [ask_of_error judged]

/-- A client posts one request. -/
theorem ask_requests (client : Client) :
    (client.ask question number reply).trace.requests = [client.request question number] := by
  cases judged : judge (client.url question) reply with
  | ok answer => simp [ask_of_ok judged]
  | error failure => simp [ask_of_error judged]

/-- What fails at some stage is explained. -/
theorem judge_of_fails {failure : Failure} (fails : reply.Fails failure) (url : String) :
    judge url reply = .error (explain url failure) := by
  cases fails <;> rfl

/-- A body without a truth value under `result` is a malformed answer. -/
theorem judge_of_not_holds {body : Value} (read : reply = .answered none (.ok body))
    (none : ∀ answer, ¬reply.Holds answer) (url : String) :
    judge url reply = .error (malformed url body) := by
  cases judged : judge url reply with
  | ok answer => exact absurd ((judge_eq_ok_iff url reply answer).mp judged) (none answer)
  | error failure =>
    subst read
    cases found : resultOf? body with
    | some answer => simp [judge, Reply.body, found] at judged
    | none => simpa [judge, Reply.body, found] using judged.symm

/-- A malformed answer that can be written is a failure of the remote service. -/
theorem malformed_of_writable {body : Value} (writable : body.obstacle? literalDepth = none)
    (url : String) : ∃ text, malformed url body = .told .remote text :=
  ⟨_, by rw [malformed, writable]⟩

/-- Of a malformed answer it is said what it is, or why this cannot be said. -/
theorem isTold_malformed (url : String) (body : Value) : (malformed url body).IsTold := by
  unfold malformed
  split
  next obstacle _ => cases obstacle <;> exact Failure.isTold_told _ _
  next => exact Failure.isTold_told _ _

/-- A client fails with what it makes of a failure of the network, or of a malformed answer. -/
theorem judge_eq_error {url : String} {failure : Failure} (judged : judge url reply = .error failure) :
    (∃ cause, reply.Fails cause ∧ failure = explain url cause) ∨ ∃ body, failure = malformed url body := by
  cases reply with
  | failed cause => exact .inl ⟨cause, .posting cause, (Except.error.inj judged).symm⟩
  | answered status body =>
    cases status with
    | some cause => exact .inl ⟨cause, .status cause body, (Except.error.inj judged).symm⟩
    | none =>
      cases body with
      | error cause => exact .inl ⟨cause, .reading cause, (Except.error.inj judged).symm⟩
      | ok body =>
        cases found : resultOf? body with
        | some answer => simp [judge, Reply.body, found] at judged
        | none => exact .inr ⟨body, by simpa [judge, Reply.body, found] using judged.symm⟩

/-- Where the failures of the network say what they are, so do those that a client makes of them. -/
theorem isTold_of_judge {url : String} {failure : Failure}
    (told : ∀ cause, reply.Fails cause → cause.IsTold) (judged : judge url reply = .error failure) :
    failure.IsTold := by
  rcases judge_eq_error judged with ⟨cause, fails, rfl⟩ | ⟨body, rfl⟩
  · by_cases caught : IsCaught cause
    · obtain ⟨words, same⟩ := explain_of_caught caught url
      obtain ⟨text, retold⟩ := retell_of_told (told cause fails) words
      rw [same, retold]
      exact Failure.isTold_told _ _
    · rw [explain_of_not_caught caught]
      exact told cause fails
  · exact isTold_malformed url body

end Client

end Switchboard
