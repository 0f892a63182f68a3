import Coursework.Remote.Exchange
import Coursework.Document.Content
import Coursework.Document.Request
import Coursework.Form.Fields
import Coursework.Form.Scalar
import Coursework.Text.Percent

/-! # Remote documents

A document is created empty, filled by one batch of requests and shared with its readers one by
one. Nothing is asked of a service before the content of a document is known to be sound.

* **`Remote.createDocument`** and **`Remote.fillDocument`** are the two steps of
  **`Remote.publish`**.
* **`Remote.share`** lets readers see a document. -/

namespace Coursework.Remote

/-! ## (1) Creating and filling -/

/-- The identity of a document that an answer gives. -/
def identityIn : Json → Outcome Json
  | .object fields =>
    match Json.fieldIn? "documentId" fields with
    | some identity =>
      if identity.isVoid then .error nameless else .ok identity
    | none => .error nameless
  | other => .error (.lacking other.kindName "get")
where
  /-- The failure of an answer without identity. -/
  nameless : Failure := .refused "Google Docs API failed to return a valid documentId" none

/-- Creates an empty document and gives its identity. -/
def createDocument (title : Text) (access : Access) : Exchange Json := do
  access.open .documents
  let answer ← call "Create document" ⟨documentsAddress, .object [("title", .text title)]⟩
  Exchange.ofOutcome (identityIn answer)

/-- Where a document is filled. -/
def fillAddress (identity : Text) : Outcome Text := do
  let part ← identity.percentEncoded.mapError Failure.unencodable
  return ("https://docs.googleapis.com/v1/documents/" : Text) ++ part ++ ":batchUpdate?alt=json"

/-- Applies operations to a document. -/
def fillDocument (identity : Text) (operations : List Operation.Candidate) (access : Access) :
    Exchange Json := do
  access.open .documents
  let requests ← Exchange.ofOutcome (Operation.requests operations)
  let address ← Exchange.ofOutcome (fillAddress identity)
  call "Format document" ⟨address, .object [("requests", .list requests)]⟩

/-- A document that was published. -/
structure Link where
  /-- Its identity. -/
  identity : Text
  /-- Where it is read. -/
  address : Text
  deriving DecidableEq, Repr

/-- A published document as an object. -/
def Link.toJson (link : Link) : Json :=
  .object [("doc_id", .text link.identity), ("doc_link", .text link.address)]

/-- Where a document is read. -/
def readAddress (identity : Text) : Text :=
  ("https://docs.google.com/document/d/" : Text) ++ identity ++ "/edit"

/-- The published document of an identity, which must be a text. -/
def Link.ofIdentity (identity : Json) : Outcome Link :=
  let address := readAddress identity.display
  Checked.outcome "DocumentLink"
    (Form.fieldsOf fun fields =>
      (Form.required ["doc_id"] Form.text fields).map fun name => ⟨name, address⟩)
    (.object [("doc_id", identity), ("doc_link", .text address)])

/-- The compiled operations of a content, with the usual placeholders. -/
def compiled (content : Content) : Outcome Compilation := content.compile Placeholders.usual

/-- Creates a document and fills it with a content. -/
def publish (title : Text) (content : Content) (access : Access) : Exchange Link := do
  access.checkToken
  let compilation ← Exchange.ofOutcome (compiled content)
  access.open .documents
  let ready := { access with ready := true }
  let identity ← createDocument title ready
  let _ ← fillDocument identity.display (compilation.operations.map .operation) ready
  Exchange.ofOutcome (Link.ofIdentity identity)

/-! ## (2) Sharing -/

/-- Where readers of a document are named. -/
def shareAddress (identity : Text) : Outcome Text := do
  let part ← identity.percentEncoded.mapError Failure.unencodable
  return ("https://www.googleapis.com/drive/v3/files/" : Text) ++ part ++
    "/permissions?fields=id&alt=json"

/-- The permission of a reader. -/
def permission (reader : Text) : Json :=
  .object [("role", .text "reader"), ("type", .text "user"), ("emailAddress", .text reader)]

/-- Lets readers see a document, one after another. -/
def shareWith (identity : Text) : List Text → Exchange Unit
  | [] => return
  | reader :: readers => do
    let address ← Exchange.ofOutcome (shareAddress identity)
    let _ ← call (("Share document with " : Text) ++ reader) ⟨address, permission reader⟩
    shareWith identity readers

/-- Lets readers see a document, and says so. -/
def share (identity : Text) (readers : List Text) (access : Access) : Exchange Text := do
  access.open .permissions
  shareWith identity readers
  return ("Google Doc shared with " : Text) ++ Text.ofNat readers.length ++ " students."

end Coursework.Remote
