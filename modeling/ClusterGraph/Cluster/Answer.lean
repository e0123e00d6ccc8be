import ClusterGraph.Json.Reader
import ClusterGraph.Store.Error

/-!
Answers of a server.

An answer with a code from 400 to 599 reports a failure, usually in a document that says what went
wrong. Every other answer is the document that was asked for.
-/

namespace ClusterGraph

/-- What a server sends back: a code and a text. -/
structure Answer where
  status : Nat := 200
  body : String
  deriving DecidableEq, Repr, Inhabited

namespace Answer

/-- A text field that may be absent but not null. -/
def textField? (json : Json) (key : String) : Option String :=
  match json.get? key with
  | none => some ""
  | some value => value.text?

/-- A number field below a limit that may be absent but not null. -/
def numberField? (limit : Nat) (json : Json) (key : String) : Option Nat :=
  match json.get? key with
  | none => some 0
  | some (.int value) => if 0 ≤ value ∧ value < limit then some value.toNat else none
  | some _ => none

/-- Whether a document has the form of a cause of a failure. -/
def isCause (json : Json) : Bool :=
  match json with
  | .obj _ => ["reason", "message", "field"].all fun key => (textField? json key).isSome
  | _ => false

/-- Whether a document has the form of the details of a failure. -/
def isDetails (json : Json) : Bool :=
  match json with
  | .null => true
  | .obj _ =>
    ["name", "group", "kind", "uid"].all (fun key => (textField? json key).isSome) &&
      (numberField? (Nat.pow 2 32) json "retryAfterSeconds").isSome &&
      (match json.get? "causes" with
        | none => true
        | some (.arr causes) => causes.all isCause
        | some _ => false)
  | _ => false

/-- Whether a document is one of the words for the outcome of a request. -/
def isOutcome (json : Json) : Bool :=
  json == .null || json == .str "Success" || json == .str "Failure"

/-- The failure that a document reports. -/
def failure? (json : Json) : Option ApiError :=
  match json with
  | .obj _ =>
    if ((json.get? "status").all isOutcome && (json.get? "details").all isDetails) then do
      some (.status (← numberField? (Nat.pow 2 16) json "code") (← textField? json "reason")
        (← textField? json "message"))
    else none
  | _ => none

/-- The failure that an answer reports. One that is not worded in the usual way is shown as it is. -/
def failure (answer : Answer) : ApiError :=
  ((Json.parse? answer.body).bind failure?).getD
    (.status answer.status "Failed to parse error data" (Text.quoted answer.body))

/-- The document of an answer. -/
def document (answer : Answer) : Except ApiError Json :=
  if 400 ≤ answer.status ∧ answer.status < 600 then .error answer.failure
  else
    match Json.parse? answer.body with
    | some json => .ok json
    | none => .error .unreadable

end Answer

namespace ApiError

/-- The reasons for failures that have a meaning of their own. -/
def knownReasons : List String :=
  ["Unauthorized", "Forbidden", "NotFound", "AlreadyExists", "Conflict", "Gone", "Invalid",
    "ServerTimeout", "StoreReadError", "Timeout", "TooManyRequests", "BadRequest",
    "MethodNotAllowed", "NotAcceptable", "RequestEntityTooLarge", "UnsupportedMediaType",
    "InternalError", "Expired", "ServiceUnavailable"]

/-- Whether a failure only says that there is no such object. Where the reason is none of the known
ones, the code decides. -/
def isNotFound : ApiError → Bool
  | status code reason _ =>
    reason == "NotFound" || (code == 404 && !knownReasons.contains reason)
  | _ => false

end ApiError

end ClusterGraph
