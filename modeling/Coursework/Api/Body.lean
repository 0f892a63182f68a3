import Coursework.Api.World
import Coursework.Form.Fields

/-! # What a request gives

A request can give a JSON value in its text, which its content type must announce, and a number
in its path.

* **`Api.readBody`** reads the value, **`Api.fromBody`** checks it, before and after the educator
  is known.
* **`Api.fromPath`** checks a number. -/

namespace Coursework.Api

/-- Whether a content type announces JSON. -/
def announcesJson (contentType : Text) : Bool :=
  let name := (Text.strip (contentType.takeWhile (· != Sign.semicolon))).map Sign.lower
  match Text.splitAt Sign.slash name with
  | [kind, form] =>
    kind = Text.ofString "application" &&
      (form = Text.ofString "json" || Text.endsWith form "+json")
  | _ => false

/-- The value that a request gives: nothing if it has no text, and the text itself if that is not
announced as JSON. -/
def readBody (request : Web.Request) : Work Json :=
  if request.text.isEmpty then pure .null
  else if (request.field? "content-type").any announcesJson then
    let source := Remote.withoutMark request.text
    match Json.read source with
    | .ok value => pure value
    | .error (.malformed cause remaining) =>
      Work.refuse (.malformedText cause.message (Json.offset source remaining))
    | .error (.longNumeral _) => Work.refuse .unreadableText
  else pure (.text request.text)

/-- A form with fields, which must be given. -/
def given {α : Type} (check : Form.Fields → Checked α) : Json → Checked α
  | .null => Checked.fail .missing
  | value => Form.fieldsOf check value

/-- What the value that a request gives is checked to be. -/
def fromBody {α : Type} (check : Form.Fields → Checked α) (value : Json) : Work α :=
  Work.ofForm "body" (given check) value

/-- The number that stands in the path of a request. -/
def fromPath (name : Text) (parts : List Text) : Work Int :=
  Work.ofForm "path" (Form.fieldsOf (Form.required [name] Form.integer))
    (.object [(name, .text (parts.headD []))])

end Coursework.Api
