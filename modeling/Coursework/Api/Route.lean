import Coursework.Text.Percent
import Coursework.Web.Message

/-! # Routes

Each service has a method and a path; a path may leave a part open that names a row. A path that
differs from a known one by slashes at its end leads there.

* **`Api.Service`** lists the services, **`Api.routes`** their paths.
* **`Api.Way`** is where a request leads, **`Api.Way.ofRequest`** finds it. -/

namespace Coursework.Api

/-- The services. -/
inductive Service
  /-- An assignment is generated, published and shared. -/
  | createAssignment
  /-- An assignment is approved and the students are told. -/
  | approveAssignment
  /-- The assignments of a classroom are listed. -/
  | listAssignments
  /-- A classroom is created. -/
  | createClassroom
  /-- A classroom is shown. -/
  | showClassroom
  /-- The application says that it runs. -/
  | showStatus
  deriving DecidableEq, Repr

/-- A part of a path. -/
inductive Segment
  /-- A name. -/
  | fixed (name : Text)
  /-- Anything but nothing. -/
  | anything
  deriving DecidableEq, Repr

/-- The way to a service. -/
structure Route where
  /-- The method. -/
  method : Text
  /-- The parts of the path. -/
  pattern : List Segment
  /-- The service. -/
  service : Service

/-- The routes, in the order in which they are tried. -/
def routes : List Route :=
  [⟨"POST", [.fixed "api", .fixed "assignments"], .createAssignment⟩,
    ⟨"PUT", [.fixed "api", .fixed "assignments", .anything, .fixed "approve"],
      .approveAssignment⟩,
    ⟨"GET", [.fixed "api", .fixed "assignments", .fixed "classroom", .anything],
      .listAssignments⟩,
    ⟨"POST", [.fixed "api", .fixed "classrooms"], .createClassroom⟩,
    ⟨"GET", [.fixed "api", .fixed "classrooms", .anything], .showClassroom⟩,
    ⟨"GET", [.fixed []], .showStatus⟩]

/-- What stands in the open parts of a pattern, if the parts of a path fit it. -/
def openParts? : List Segment → List Text → Option (List Text)
  | [], [] => some []
  | .fixed name :: pattern, part :: parts =>
    if name = part then openParts? pattern parts else none
  | .anything :: pattern, part :: parts =>
    if part.isEmpty then none else (openParts? pattern parts).map (part :: ·)
  | _, _ => none

/-- What stands in the open parts of a route, if a path fits it. -/
def Route.openParts? (route : Route) (path : Text) : Option (List Text) :=
  match path with
  | Sign.slash :: rest => Api.openParts? route.pattern (Text.splitAt Sign.slash rest)
  | _ => none

/-- Where a request leads. -/
inductive Way
  /-- To a service, with what stands in the open parts of its path. -/
  | service (service : Service) (parts : List Text)
  /-- To a path with another method. -/
  | otherMethod (method : Text)
  /-- To another path. -/
  | elsewhere (path : Text)
  /-- Nowhere. -/
  | nowhere
  deriving DecidableEq, Repr

/-- A path without the slashes at its end, if it fits a route. -/
def withoutSlashes? (path : Text) : Option Text :=
  let shorter := path.trimEnd (· == Sign.slash)
  if shorter.length < path.length && path.length != 1 &&
      routes.any fun route => (route.openParts? shorter).isSome then some shorter
  else none

/-- Where a method and a path lead: to the first route that they fit, or else to the first that
the path fits. -/
def Way.ofPath (method path : Text) : Way :=
  let fitting := routes.filterMap fun route =>
    (route.openParts? path).map fun parts => (route, parts)
  match fitting.find? fun entry => entry.1.method = method, fitting with
  | some (route, parts), _ => .service route.service parts
  | none, (route, _) :: _ => .otherMethod route.method
  | none, [] =>
    match withoutSlashes? path with
    | some path => .elsewhere path
    | none => .nowhere

/-- Where a request leads. -/
def Way.ofRequest (request : Web.Request) : Way :=
  Way.ofPath request.method request.sentPath.percentDecoded

/-- The address of a path at the host of a request, with the query of that request. -/
def addressOf (request : Web.Request) (path : Text) : Text :=
  Text.percentNormal (("http://" : Text) ++ request.host ++ path ++
    if request.query.isEmpty then [] else Sign.question :: request.query)

end Coursework.Api
