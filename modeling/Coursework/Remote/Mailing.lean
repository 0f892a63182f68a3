import Coursework.Remote.Exchange
import Coursework.Mail.Message

/-! # Sending mail

* **`Remote.send`** sends a message; one without recipient is not sent. -/

namespace Coursework.Remote

/-- Where messages are sent. -/
def mailAddress : Text := "https://gmail.googleapis.com/gmail/v1/users/me/messages/send?alt=json"

/-- Sends a message. -/
def send (message : Mail.Message) (access : Access) : Exchange Json := do
  if Text.isBlank message.recipient then throw .missingRecipient
  access.open .mail
  let raw ← Exchange.ofOutcome message.raw
  call (("Send email to " : Text) ++ message.recipient)
    ⟨mailAddress, .object [("raw", .text raw)]⟩

end Coursework.Remote
