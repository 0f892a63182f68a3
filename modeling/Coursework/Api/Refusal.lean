import Coursework.Failure
import Coursework.Json.Compact
import Coursework.Web.Message

/-! # Refusals

A request that cannot be served is refused with a status and a detail that says why.

* **`Api.Refusal`** lists the reasons; **`Api.Refusal.status`**, **`Api.Refusal.detail`** and
  **`Api.Refusal.fields`** are what the answer says.
* **`Api.Refusal.response`** is that answer, which a detail without written form makes fail. -/

namespace Coursework.Api

/-- Why a request is refused. -/
inductive Refusal
  /-- It leads nowhere. -/
  | nowhere
  /-- Its path is for another method. -/
  | otherMethod (method : Text)
  /-- It brings no token. -/
  | noToken
  /-- Its token is nobody's. -/
  | unconfirmed
  /-- Its text is malformed JSON, with a message and a position. -/
  | malformedText (message : Text) (position : Nat)
  /-- Its text cannot be read. -/
  | unreadableText
  /-- What it gives does not fit. -/
  | misfit (given : Json) (issues : List Issue)
  /-- There is no such classroom. -/
  | noClassroom
  /-- The classroom has no students. -/
  | noStudents
  /-- The reply of the model is rejected. -/
  | rejected (rejection : Rejection)
  /-- A remote service refuses. -/
  | remote (message : Text)
  /-- There is no such assignment. -/
  | noAssignment
  /-- There is nobody to be told. -/
  | nobodyToTell

namespace Refusal

/-- The status of a refusal. -/
def status : Refusal → Nat
  | noStudents | nobodyToTell | unreadableText => 400
  | noToken => 401
  | unconfirmed => 403
  | nowhere | noClassroom | noAssignment => 404
  | otherMethod _ => 405
  | malformedText _ _ | misfit _ _ | rejected _ => 422
  | remote _ => 502

/-- The report of malformed JSON. -/
def malformedReport (message : Text) (position : Nat) : Json :=
  .list [.object [("type", .text Issue.Cause.notJson.kind),
    ("loc", .list [.text "body", .int position]), ("msg", .text Issue.Cause.notJson.message),
    ("input", .object []), ("ctx", .object [("error", .text message)])]]

/-- What a refusal says. -/
def detail : Refusal → Json
  | nowhere => .text "Not Found"
  | otherMethod _ => .text "Method Not Allowed"
  | noToken => .text "Unauthorized: No token provided"
  | unconfirmed => .text "Forbidden: Invalid or expired token"
  | malformedText message position => malformedReport message position
  | unreadableText => .text "There was an error parsing the body"
  | misfit given issues => .list (issues.map (Issue.report given))
  | noClassroom => .text "Classroom not found"
  | noStudents => .text "No students found in the classroom"
  | rejected rejection => rejection.report.toJson
  | remote message => .text (("Google API failed: " : Text) ++ message)
  | noAssignment => .text "Assignment not found"
  | nobodyToTell => .text "Classroom data is missing"

/-- The fields of a refusal. -/
def fields : Refusal → Web.Fields
  | otherMethod method => [("allow", method)]
  | noToken => [("www-authenticate", "Bearer")]
  | _ => []

end Refusal

/-- Refuses content without a written form. -/
def checkWritable (content : Json) : Outcome Unit :=
  if content.isFinite then
    (content.compact.utf8.map fun _ => ()).mapError Failure.unencodable
  else .error .notFinite

/-- The answer to a request that is refused. -/
def Refusal.response (refusal : Refusal) : Outcome Web.Response := do
  let content := Json.object [("detail", refusal.detail)]
  checkWritable content
  return ⟨refusal.status, refusal.fields, .json content⟩

/-- The answer to a request that failed; a message without written form leaves it empty. -/
def failureResponse (failure : Failure) : Web.Response :=
  if failure.message.hasSurrogate then ⟨500, [], .text []⟩
  else ⟨500, [], .json (.object
    [("error", .text "Request failed"), ("details", .text failure.message)])⟩

end Coursework.Api
