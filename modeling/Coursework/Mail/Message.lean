import Coursework.Mail.Body
import Coursework.Mail.Folding

/-! # Messages

A message has a recipient, a sender, a subject and a text in HTML. Its written form is six
header fields, an empty line and the body, all lines ending with a line feed.

* **`Mail.Message.bytes`** is the written form, **`Mail.Message.raw`** its base 64. -/

namespace Coursework.Mail

/-- A message. -/
structure Message where
  /-- Whom it comes from. -/
  sender : Text
  /-- Whom it goes to. -/
  recipient : Text
  /-- What it is about. -/
  subject : Text
  /-- What it says, in HTML. -/
  html : Text

/-- The signs that end a line of a text. -/
def endsLine (sign : Nat) : Bool :=
  (10 ≤ sign && sign ≤ 13) || (28 ≤ sign && sign ≤ 30) || sign == 0x85 || sign == 0x2028 ||
    sign == 0x2029

/-- Whether something stands behind the end of the first line. -/
def hasSeveralLines (text : Text) : Bool :=
  match text.dropWhile (! endsLine ·) with
  | [] => false
  | Sign.carriageReturn :: Sign.newline :: rest => !rest.isEmpty
  | _ :: rest => !rest.isEmpty

/-- A value of a field, unless it has several lines. -/
def singleLine (value : Text) : Outcome Text :=
  if hasSeveralLines value then .error (.header .severalLines) else .ok value

/-- The pieces of a field, unless its text has surrogates that stand for no byte. -/
def withMeaning (pieces : List Piece) (meaning : Text) : Outcome (List Piece) := do
  let _ ← (meaning.utf8Stray).mapError Failure.unencodable
  return pieces

/-- The pieces of a field that names addresses. -/
def addressField (value : Text) : Outcome (List Piece) := do
  let (pieces, entries) ← (addresses (← singleLine value)).mapError Failure.header
  withMeaning pieces (Text.joinWith ", " (entries.map Entry.toText))

/-- The pieces of a field with free text. -/
def textField (value : Text) : Outcome (List Piece) := do
  let pieces := freeText (← singleLine value)
  withMeaning pieces (Piece.writtenAll pieces)

namespace Message

/-- A line of the header. -/
def fixedField (name value : Text) : Text := name ++ (": " : Text) ++ value

/-- The lines of the header and the bytes of the body. -/
def sections (message : Message) : Outcome (List Text × List Nat) := do
  let recipient ← addressField message.recipient
  let sender ← addressField message.sender
  let subject ← textField message.subject
  let body ← (Body.ofText message.html).mapError Failure.unencodable
  let recipientLines ← foldField "To" recipient
  let senderLines ← foldField "From" sender
  let subjectLines ← foldField "Subject" subject
  return (recipientLines ++ senderLines ++ subjectLines ++
    [fixedField "Content-Type" "text/html; charset=\"utf-8\"",
      fixedField "Content-Transfer-Encoding" body.encoding.name,
      fixedField "MIME-Version" "1.0"], body.bytes)

/-- The written form of a message. -/
def bytes (message : Message) : Outcome (List Nat) := do
  let (header, body) ← message.sections
  return header.flatMap (· ++ [Sign.newline]) ++ Sign.newline :: body

/-- The written form of a message in the alphabet that is safe in addresses. -/
def raw (message : Message) : Outcome Text :=
  return Base64.encode Base64.urlSafe (← message.bytes)

end Message

/-- What students are told about an approved assignment on a subject, with a link to its
document. -/
def approvalNotice (subject link : Text) : Text :=
  ("<p>Dear Student,</p>" : Text) ++
    ("<p>A new assignment for <strong>" : Text) ++ subject ++ "</strong> has been approved.</p>" ++
    "<p>Please review the assignment using the link below:</p>" ++
    "<p><a href=\"" ++ link ++ "\">View Assignment</a></p>" ++
    "<p>Best regards,<br>Your Education Team</p>"

end Coursework.Mail
