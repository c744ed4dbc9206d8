import Switchboard.Failure
import Switchboard.Settings.Builtin
import Switchboard.Settings.Tree
import Switchboard.Trace
import Switchboard.Value.Literal

/-!
# The client of a remote authority

The client posts the number to one of two paths below its base URL and reads the truth value under `result`
in the answer. What goes wrong with the request, and any other answer, is a failure of the remote service;
other failures pass through unchanged. The network is given as the reply that it will make.

The failure of the remote service tells of what went wrong. Where that cannot be told, because a failure cannot
say what it is or an answer has no literal, the failure to tell it takes its place.

A client that is made from settings shares with them how long it waits, if that is a map.
-/

namespace Switchboard

/-- What the network makes of a request. -/
inductive Reply where
  /-- The request is not answered. -/
  | failed (failure : Failure)
  /-- The request is answered: whether the status tells of a failure, and the body or why it is not read. -/
  | answered (status : Option Failure) (body : Except Failure Value)

/-- The reply where nobody answers. -/
def Reply.silence : Reply := .failed (.told (.request .connection) "no reply")

/-- The body of a reply, or the first failure on the way to it. -/
def Reply.body : Reply → Except Failure Value
  | .failed failure => .error failure
  | .answered (some failure) _ => .error failure
  | .answered none body => body

/-- A client of an authority, by where and how it asks. -/
structure Client where
  baseUrl : String
  timeout : Graph
  /-- Whether the client posts within a session that it was given. -/
  inSession : Bool

namespace Client

/-- The logger of the client. -/
def logger : String := "callroute.ext_telephony"

/-- A URL without the slashes at its end. -/
def trimUrl (url : String) : String :=
  String.ofList (url.toList.reverse.dropWhile (· = '/')).reverse

/-- The client for a URL. -/
def ofUrl (url : String) (timeout : Graph) (inSession : Bool) : Client :=
  { baseUrl := trimUrl url, timeout, inSession }

end Client

/-- The path below the base URL under which a question is asked. -/
def Question.path : Question → String
  | .localNumber => "/emergency/local"
  | .potentialNumber => "/emergency/potential"

namespace Client

/-- Where a client asks a question. -/
def url (client : Client) (question : Question) : String :=
  client.baseUrl ++ question.path

/-- The truth value that a body holds under `result`. -/
def resultOf? : Value → Option Bool
  | .map fields =>
    match Entries.get? (.text "result") fields with
    | some (.bool answer) => some answer
    | _ => none
  | _ => none

/-- The failure of the remote service that begins with some words and goes on with what a failure says of itself,
or the failure to say so. -/
def retell (words : String) (failure : Failure) : Failure :=
  match failure.message with
  | .ok text => .told .remote (words ++ text)
  | .error cause => cause

/-- What a failure on the way to an answer amounts to: a failure of the remote service, or itself. -/
def explain (url : String) (failure : Failure) : Failure :=
  match failure.kind with
  | .request _ => retell s!"Request to {url} failed: " failure
  | .value => retell s!"Invalid JSON from {url}: " failure
  | _ => failure

/-- The failure to write a value into a message. -/
def unwritten (obstacle : Unwritable) : Failure :=
  match obstacle with
  | .tooDeep => .told (.other "RecursionError") obstacle.message
  | _ => .told .value obstacle.message

/-- The failure that is an answer without a truth value. -/
def malformed (url : String) (body : Value) : Failure :=
  match body.obstacle? literalDepth with
  | some obstacle => unwritten obstacle
  | none => .told .remote (s!"Malformed response from {url}: " ++ body.literal)

/-- What the client makes of a reply. -/
def judge (url : String) (reply : Reply) : Except Failure Bool :=
  match reply.body with
  | .error failure => .error (explain url failure)
  | .ok body =>
    match resultOf? body with
    | some answer => .ok answer
    | none => .error (malformed url body)

/-- Asks a question about a number, with one request. -/
def ask (client : Client) (question : Question) (number : String) (reply : Reply) :
    Traced Failure Bool := do
  let url := client.url question
  Traced.send (.posted client.inSession url number client.timeout.value)
  let answer ← Traced.lift (judge url reply)
  Traced.log .debug logger (question.path ++ " answered " ++ (Scalar.bool answer).literal)
  return answer

end Client

end Switchboard
