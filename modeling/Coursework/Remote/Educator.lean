import Coursework.Failure
import Coursework.Form.Fields
import Coursework.Form.Scalar
import Coursework.Json.Reader

/-! # Educators

An educator comes with a token, and the issuer of tokens knows whose it is. A token that it does
not confirm, or confirms without an address, is nobody's.

* **`Remote.Confirmation`** is what the issuer says, **`Remote.Educator.confirmed`** whom it
  means. -/

namespace Coursework.Remote

/-- Where the issuer of tokens is asked. -/
def issuerAddress : Text := "https://www.googleapis.com/oauth2/v3/tokeninfo"

/-- What the issuer of tokens says about one. -/
inductive Confirmation
  /-- An answer with a status and a text. -/
  | answered (status : Int) (body : Text)
  /-- The issuer cannot be reached. -/
  | unreachable

/-- An educator. -/
structure Educator where
  /-- The address. -/
  email : Text
  /-- The token. -/
  token : Text
  deriving DecidableEq, Repr

/-- An educator as an object. -/
def Educator.toJson (educator : Educator) : Json :=
  .object [("email", .text educator.email), ("access_token", .text educator.token)]

/-- The text of an answer without a byte order mark. -/
def withoutMark : Text → Text
  | Sign.byteOrderMark :: text => text
  | text => text

/-- The educator of a token and an address, which must be a text. -/
def Educator.ofEmail (token : Text) (email : Json) : Outcome Educator :=
  Checked.outcome "GoogleUser"
    (Form.fieldsOf fun fields =>
      (Form.required ["email"] Form.text fields).map fun email => { email, token })
    (.object [("email", email), ("access_token", .text token)])

/-- Whose a token is, by the text of an answer. -/
def Educator.ofBody (token body : Text) : Outcome (Option Educator) := do
  let body := withoutMark body
  match ← (Json.read body).mapError (Failure.ofFault body) with
  | .object fields =>
    let email := (Json.fieldIn? "email" fields).getD .null
    if email.isVoid then return none else return some (← Educator.ofEmail token email)
  | other => .error (.lacking other.kindName "get")

/-- Whose a token is, by what the issuer says. -/
def Educator.confirmed (token : Text) : Confirmation → Outcome (Option Educator)
  | .unreachable => .ok none
  | .answered status body =>
    if 200 ≤ status && status < 300 then Educator.ofBody token body else .ok none

/-- What the issuer was asked, as an object. -/
def inquiry (token : Text) : Json :=
  .object [("url", .text issuerAddress), ("access_token", .text token)]

end Coursework.Remote
