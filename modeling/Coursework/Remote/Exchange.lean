import Coursework.Failure
import Coursework.Json.Literal
import Coursework.Json.Reader

/-! # Exchanges with remote services

Documents, permissions and mail are kept by remote services. A session knows the answers that
they will still give and remembers what they were asked, also when the work fails.

* **`Remote.Session`** is the state of an exchange, **`Remote.Exchange`** work that needs one.
* **`Remote.call`** sends a request and takes the answer apart. -/

namespace Coursework.Remote

/-! ## (1) Requests and replies -/

/-- The remote services. -/
inductive Service
  /-- Documents and their contents. -/
  | documents
  /-- Who may read which document. -/
  | permissions
  /-- Mail. -/
  | mail
  deriving DecidableEq, Repr

/-- The name of a service. -/
def Service.name : Service → Text
  | .documents => "docs"
  | .permissions => "drive"
  | .mail => "gmail"

/-- The version of a service. -/
def Service.version : Service → Text
  | .documents => "v1"
  | .permissions => "v3"
  | .mail => "v1"

/-- Something that is asked of a service. -/
structure Request where
  /-- Where it is sent. -/
  address : Text
  /-- What is sent. -/
  body : Json

/-- A request as an object. -/
def Request.toJson (request : Request) : Json :=
  .object [("method", .text "POST"), ("uri", .text request.address), ("body", request.body)]

/-- What comes back. -/
inductive Reply
  /-- An answer with a status, a phrase for it and a text. -/
  | answered (status : Int) (reason body : Text)
  /-- The connection breaks. -/
  | broken (message : Text)

/-- Where documents are created. -/
def documentsAddress : Text := "https://docs.googleapis.com/v1/documents?alt=json"

/-- The reply of a service that has nothing to say. -/
def Reply.empty : Reply := .answered 200 "Reason" "\x7b\x7d"

/-- The reply that names a new document. -/
def Reply.created (number : Nat) : Reply :=
  .answered 200 "Reason" (("\x7b\"documentId\": \"doc-" : Text) ++ Text.ofNat number ++ "\"\x7d")

/-! ## (2) Sessions -/

/-- What services will answer and what they were asked. -/
structure Session where
  /-- The replies still to come; without a list of them, documents are numbered as they are
  created, and nothing else is said. -/
  replies : Option (List Reply) := none
  /-- How many documents were numbered. -/
  numbered : Nat := 0
  /-- The requests in order. -/
  sent : List Request := []
  /-- The services that were opened with a token, in order. -/
  opened : List (Service × Text) := []

/-- The reply to a request, and the session after it. -/
def Session.answer (session : Session) (request : Request) : Reply × Session :=
  let session := { session with sent := session.sent ++ [request] }
  match session.replies with
  | some (reply :: replies) => (reply, { session with replies := some replies })
  | some [] => (.empty, session)
  | none =>
    if request.address = documentsAddress then
      (.created (session.numbered + 1), { session with numbered := session.numbered + 1 })
    else (.empty, session)

/-- Work with a session; what was asked stays known when it fails. -/
abbrev Exchange (α : Type) := ExceptT Failure (StateM Session) α

/-- An outcome that needs no session. -/
def Exchange.ofOutcome {α : Type} (outcome : Outcome α) : Exchange α := liftM outcome

/-- How services are reached: the token of an educator, or services that are open already. -/
structure Access where
  /-- The token. -/
  token : Text
  /-- Whether the services are open already. -/
  ready : Bool := false

/-- A token, unless it is empty. -/
def Access.checkToken (access : Access) : Exchange Unit :=
  if access.token.isEmpty then throw .missingToken else pure ()

/-- Opens a service, unless it is open already. -/
def Access.open (access : Access) (service : Service) : Exchange Unit := do
  if !access.ready then
    access.checkToken
    modify fun session => { session with opened := session.opened ++ [(service, access.token)] }

/-! ## (3) Answers -/

/-- The text of a reason that an answer gives. -/
def reasonText : Json → Outcome Text
  | .text reason => .ok reason.strip
  | .null => .ok []
  | other => .error (.lacking other.kindName "strip")

/-- The message in an object that describes an error. -/
def messageIn? (value : Json) : Option Json := (value.get? "error").bind (Json.get? · "message")

/-- The reason of an answer that refuses a request: the message of the error that it describes,
or else the phrase for its status. -/
def reasonOf (phrase body : Text) : Outcome Text :=
  match Json.read body with
  | .ok (.list (first :: _)) => reasonText ((messageIn? first).getD (.text phrase))
  | .ok value => reasonText ((messageIn? value).getD (.text phrase))
  | .error _ => .ok phrase.strip

/-- What an answer says: a text that is no JSON is taken as it is, and nothing is an empty
object. -/
def contentOf (status : Int) (body : Text) : Outcome Json :=
  if status = 204 then .ok (.object [])
  else
    match Json.read body with
    | .ok value => .ok (if value.isVoid then .object [] else value)
    | .error (.longNumeral digits) => .error (.longNumeral digits)
    | .error _ => .ok (if body.isEmpty then .object [] else .text body)

/-- Sends a request on the way to an aim, and gives what the answer says. -/
def call (aim : Text) (request : Request) : Exchange Json := do
  let session ← get
  let (reply, session) := session.answer request
  set session
  match reply with
  | .broken message => throw (.disconnected message)
  | .answered status phrase body =>
    if status < 300 then Exchange.ofOutcome (contentOf status body)
    else
      if status = 403 then Exchange.ofOutcome ((Grounds.check body).mapError Failure.grounds)
      let reason ← Exchange.ofOutcome (reasonOf phrase body)
      throw (.refused (aim ++ (" failed: " : Text) ++ reason) (some status))

end Coursework.Remote
