import Coursework.Web.Message

/-! # Requests from other origins

A browser says from which origin a page sends a request, and asks beforehand whether it may. All
origins may, with every method in use.

* **`Web.preflight?`** answers a question beforehand.
* **`Web.originFields`** are the fields that let a page see a response. -/

namespace Coursework.Web

/-- The methods that pages of other origins may use. -/
def methods : List Text := ["DELETE", "GET", "HEAD", "OPTIONS", "PATCH", "POST", "PUT"]

/-- The field that lets the page of an origin see a response. -/
def allowOrigin (origin : Text) : Text × Text := ("access-control-allow-origin", origin)

/-- The field that lets a page send credentials. -/
def allowCredentials : Text × Text := ("access-control-allow-credentials", "true")

/-- The answer to the question whether an origin may use a method. -/
def preflight (origin method : Text) : Response :=
  let fields :=
    [allowOrigin origin, allowCredentials,
      ("access-control-allow-methods", Text.joinWith ", " methods)]
  if methods.contains method then ⟨200, fields, .text "OK"⟩
  else ⟨400, fields, .text "Disallowed CORS method"⟩

/-- The answer to a question beforehand, if a request is one. -/
def preflight? (request : Request) : Option Response :=
  match request.field? "origin", request.field? "access-control-request-method" with
  | some origin, some method =>
    if request.method = Text.ofString "OPTIONS" then some (preflight origin method) else none
  | _, _ => none

/-- The fields that let the page that sent a request see the response: any page, or, where
cookies were sent, the one that did. -/
def originFields (request : Request) : Fields :=
  match request.field? "origin" with
  | none => []
  | some origin =>
    [allowOrigin (if (request.field? "cookie").isSome then origin else "*"), allowCredentials]

end Coursework.Web
