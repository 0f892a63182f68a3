import Coursework.Form.Scalar
import Coursework.Mailbox.Reading

/-! # Checks of mailboxes

* **`Form.mailbox`** checks a text that names a mailbox and gives its normal form. -/

namespace Coursework.Form

/-- A mailbox, in its normal form. -/
def mailbox (value : Json) : Checked Text := do
  match Mailbox.read (← text value) with
  | .ok address => return address
  | .error fault => Checked.fail (.noMailbox fault)

end Coursework.Form
