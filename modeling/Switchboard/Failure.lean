import Switchboard.Text.Quoted

/-!
# Failures of a call

A call to an authority fails in one of the ways below. Failures of the request itself and failures reported
by the remote service are told from faults of the callee.

What a failure says of itself is made only when it is asked for. For a failure that the callee made up this may
fail in turn, in any of the ways in which calls do.
-/

namespace Switchboard

/-- How a request over the network fails. -/
inductive RequestFailure where
  | general | connection | timeout | status | invalidJson | invalidUrl | tooManyRedirects
deriving DecidableEq, Repr

/-- How a call fails. -/
inductive FailureKind where
  | request (failure : RequestFailure)
  /-- The remote service could not answer. -/
  | remote
  | value
  | operatingSystem
  | connection
  | key
  | type
  | runtime
  | zeroDivision
  /-- Any other fault of the callee, by its name. -/
  | other (name : String)
  /-- The callee has no such operation. -/
  | noOperation
deriving DecidableEq, Repr

/-- A failure, with what it says of itself or with the failure to say so. -/
inductive Failure where
  | told (kind : FailureKind) (text : String)
  | untold (kind : FailureKind) (cause : Failure)
deriving DecidableEq, Repr

namespace Failure

/-- How a call failed. -/
def kind : Failure → FailureKind
  | .told kind _ | .untold kind _ => kind

/-- What a failure says of itself, if it can. A missing key is quoted. -/
def message : Failure → Except Failure String
  | .told .key text => .ok (Text.quoted text)
  | .told _ text => .ok text
  | .untold _ cause => .error cause

/-- Whether a failure can say what it is. -/
def IsTold (failure : Failure) : Prop := ∃ text, failure.message = .ok text

end Failure

end Switchboard
