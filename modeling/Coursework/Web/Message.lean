import Coursework.Json.Basic

/-! # Requests and responses of the web

A request names a method and a target and carries fields and a text; a response has a status,
fields and content.

* **`Web.Request`** and **`Web.Response`** are the types.
* **`Web.Request.field?`** looks a field up, whatever the case of its name. -/

namespace Coursework.Web

/-- The fields of a message, in order. -/
abbrev Fields := List (Text × Text)

/-- A request. -/
structure Request where
  /-- What is to be done. -/
  method : Text
  /-- What it is to be done with: a path, and a query after a question mark. -/
  target : Text
  /-- The fields. -/
  fields : Fields := []
  /-- The text that comes with it; the empty text is none. -/
  text : Text := []

/-- The value of a field. -/
def Request.field? (request : Request) (name : Text) : Option Text :=
  (request.fields.find? fun field =>
    field.1.map Sign.lower = name.map Sign.lower).map Prod.snd

/-- The host that a request is sent to. -/
def Request.host (request : Request) : Text := (request.field? "host").getD "localhost"

/-- The path of a request, as it was sent. -/
def Request.sentPath (request : Request) : Text :=
  (request.target.takeWhile (· != Sign.hash)).takeWhile (· != Sign.question)

/-- The query of a request, if it has one. -/
def Request.query (request : Request) : Text :=
  ((request.target.takeWhile (· != Sign.hash)).dropWhile (· != Sign.question)).drop 1

/-- What a response carries. -/
inductive Content
  /-- A JSON value. -/
  | json (value : Json)
  /-- A text. -/
  | text (value : Text)

/-- A response. -/
structure Response where
  /-- Its status. -/
  status : Nat
  /-- Its fields, with names in small letters. -/
  fields : Fields := []
  /-- What it carries. -/
  content : Content

/-- The response with fields more. -/
def Response.withFields (response : Response) (fields : Fields) : Response :=
  { response with fields := response.fields ++ fields }

end Coursework.Web
