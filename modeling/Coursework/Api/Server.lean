import Coursework.Api.Assignments
import Coursework.Api.Credentials
import Coursework.Api.Route
import Coursework.Web.Origin

/-! # The server

A request is led to a service. Every service but the one that says that the application runs
needs an educator; what the text of a request gives is read before the educator is asked for, and
checked afterwards.

* **`Api.serve`** is the work on a request, **`Api.answer`** the response with the world after
  it. -/

namespace Coursework.Api

/-- Serves a request that gives a value. -/
def serveGiven {α : Type} (request : Web.Request) (check : Form.Fields → Checked α)
    (work : Remote.Educator → α → Work Web.Response) : Work Web.Response := do
  let value ← readBody request
  let educator ← authenticate request
  work educator (← fromBody check value)

/-- Serves a request that names a number in its path. -/
def serveNumber (request : Web.Request) (name : Text) (parts : List Text)
    (work : Remote.Educator → Int → Work Web.Response) : Work Web.Response := do
  let educator ← authenticate request
  work educator (← fromPath name parts)

/-- The work of a service. -/
def perform (request : Web.Request) (parts : List Text) : Service → Work Web.Response
  | .createAssignment => serveGiven request Brief.ofFields createAssignment
  | .approveAssignment => serveNumber request "assignment_id" parts approveAssignment
  | .listAssignments => serveNumber request "classroom_id" parts fun _ => listAssignments
  | .createClassroom =>
    serveGiven request ClassroomForm.ofFields fun _ form => createClassroom form
  | .showClassroom => serveNumber request "classroom_id" parts fun _ => showClassroom
  | .showStatus => return { status := 200, content := .json (.object [("status", .text "Online")]) }

/-- The work on a request. -/
def serve (request : Web.Request) : Work Web.Response :=
  match Way.ofRequest request with
  | .service service parts => perform request parts service
  | .otherMethod method => Work.refuse (.otherMethod method)
  | .elsewhere path => return {
      status := 307, fields := [("location", addressOf request path)], content := .text [] }
  | .nowhere => Work.refuse .nowhere

/-- The response to the end of work; one that tells of a failure is the same for every origin. -/
def conclude (request : Web.Request) (result : Except Stop Web.Response) : Web.Response :=
  let outcome : Outcome Web.Response := match result with
    | .ok response => .ok response
    | .error (.refused refusal) => refusal.response
    | .error (.failed failure) => .error failure
  match outcome with
  | .ok response => response.withFields (Web.originFields request)
  | .error failure => failureResponse failure

/-- The response to a method that asks for fields only. -/
def withoutContent (request : Web.Request) (response : Web.Response) : Web.Response :=
  if request.method = Text.ofString "HEAD" then { response with content := .text [] } else response

/-- The response to a request, and the world after it. -/
def answer (request : Web.Request) (world : World) : Web.Response × World :=
  match Web.preflight? request with
  | some response => (response, world)
  | none =>
    let (result, world) := (serve request).run.run world
    (withoutContent request (conclude request result), world)

end Coursework.Api
