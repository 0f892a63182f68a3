import Coursework.Assignment.Rejection
import Coursework.Form.Listing
import Coursework.Mail.Fault
import Coursework.Remote.Grounds
import Coursework.Store.Fault
import Coursework.Text.Encoding

/-! # Failures

Everything that can stop the work. What a failure is told apart by is its cause; the wording is
in one place.

* **`Failure`** lists the causes, **`Failure.message`** words them.
* **`Outcome`** is a value or a failure. -/

namespace Coursework

/-- What stops the work. -/
inductive Failure
  /-- A reply of the model is rejected. -/
  | rejected (rejection : Rejection)
  /-- A value does not fit a form. -/
  | invalid (form : Text) (given : Json) (issues : List Issue)
  /-- A text has no encoded form. -/
  | unencodable (fault : Unencodable)
  /-- Bytes are no text. -/
  | undecodable (fault : Undecodable)
  /-- An answer is malformed JSON. -/
  | malformed (source : Text) (cause : Json.Cause) (remaining : Nat)
  /-- A numeral has too many digits. -/
  | longNumeral (digits : Nat)
  /-- A value of some kind stands where a text or an object is needed for what is named. -/
  | lacking (kind feature : Text)
  /-- An operation on documents is none. -/
  | unsupportedOperation (kind : Text)
  /-- The parts of a report do not fit. -/
  | misfit (reason : Report.Misfit)
  /-- The model fails with a message. -/
  | modelFailed (message : Text)
  /-- There is no key for the model. -/
  | missingKey
  /-- A header field of a message cannot be sent. -/
  | header (fault : Mail.Fault)
  /-- A message has no recipient. -/
  | missingRecipient
  /-- A remote service is to be opened without a token. -/
  | missingToken
  /-- A remote service refuses what it is asked, with the status of its answer if that is why. -/
  | refused (message : Text) (status : Option Int)
  /-- A remote service forbids what it is asked on grounds that cannot be looked into. -/
  | grounds (fault : Remote.Grounds.Fault)
  /-- The connection to a remote service breaks. -/
  | disconnected (message : Text)
  /-- The store does not take a row or a number. -/
  | storage (fault : Store.Fault)
  /-- A number in an answer is not finite. -/
  | notFinite
  deriving Inhabited

/-- A value or a failure. -/
abbrev Outcome := Except Failure

namespace Failure

/-- The wording of a failure. -/
def message : Failure → Text
  | rejected rejection => rejection.message
  | invalid form given issues => Issue.listing form given issues
  | unencodable fault => fault.message
  | undecodable fault => fault.message
  | malformed source cause remaining => (Json.Fault.malformed cause remaining).message source
  | longNumeral digits => Json.longNumeralMessage digits
  | lacking kind feature =>
    Sign.singleQuote :: kind ++ ("' object has no attribute '" : Text) ++ feature ++ "'"
  | unsupportedOperation kind => ("Unsupported operation: " : Text) ++ kind
  | misfit reason => reason.message
  | modelFailed message => message
  | header fault => fault.message
  | missingRecipient => "Recipient email is missing!"
  | missingToken => "Missing Google access token."
  | refused message _ => message
  | grounds fault => fault.message
  | disconnected message => message
  | storage fault => fault.message
  | notFinite => "Out of range float values are not JSON compliant"
  | missingKey => "OPENROUTER_API_KEY is not set. Add it to your .env file."

/-- The failure of a text that is no JSON. -/
def ofFault (source : Text) : Json.Fault → Failure
  | .malformed cause remaining => malformed source cause remaining
  | .longNumeral digits => longNumeral digits

end Failure

/-- What the check of a form makes of a value, as an outcome. -/
def Checked.outcome {α : Type} (form : Text) (check : Json → Checked α) (given : Json) :
    Outcome α :=
  (check given).mapError (Failure.invalid form given)

end Coursework
