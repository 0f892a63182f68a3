import Coursework.Form.Issue
import Coursework.Json.Literal
import Coursework.Text.Encoding

/-! # Issues with the values that they speak of

An issue is found in a value as a whole and speaks of a part of it: the part at its place, or, of
a field that is missing, the object where it is missed. A form that does not pass is reported in
words, with a paragraph for every issue, or as a list of objects.

* **`Issue.subject`** is the part that an issue speaks of.
* **`Issue.listing`** reports issues in words, **`Issue.report`** one of them as an object. -/

namespace Coursework

/-! ## (1) Shortened texts -/

namespace Text

/-- The signs at the start whose bytes fit into a number of them. -/
def withinBytes : Nat → Text → Text
  | _, [] => []
  | room, sign :: text =>
    let width := (utf8Bytes sign).length
    if width ≤ room then sign :: withinBytes (room - width) text else []

/-- A text of more than fifty bytes without its middle. -/
def shortened (text : Text) : Text :=
  if text.byteCount ≤ 50 then text
  else withinBytes 25 text ++ ("..." : Text) ++ (withinBytes 24 text.reverse).reverse

end Text

namespace Issue

/-! ## (2) The subject of an issue -/

/-- The part at a place. A step that leads nowhere is none: what is missing is spoken of by what
it is missing from, and one reading of several by what is read. -/
def subject (whole : Json) : List Step → Json
  | [] => whole
  | .field name :: place =>
    match whole.get? name with
    | some part => subject part place
    | none => whole
  | .position index :: place =>
    match whole.toList?.bind (·[index]?) with
    | some part => subject part place
    | none => whole

/-! ## (3) Reports in words -/

/-- The wording of a step. -/
def stepText : Step → Text
  | .field name => name
  | .position index => Text.ofNat index

/-- Where the kinds of causes are explained. -/
def explained : Text := "https://errors.pydantic.dev/2.14/v/"

/-- The paragraph of an issue in a value. -/
def paragraph (whole : Json) (issue : Issue) : Text :=
  let part := subject whole issue.place
  Text.joinWith "." (issue.place.map stepText) ++ ("\n  " : Text) ++ issue.cause.message ++
    " [type=" ++ issue.cause.kind ++ ", input_value=" ++ part.literal.shortened ++
    ", input_type=" ++ part.kindName ++ "]\n    For further information visit " ++ explained ++
    issue.cause.kind

/-- The issues of a form that was filled in with a value. -/
def listing (form : Text) (whole : Json) (issues : List Issue) : Text :=
  Text.ofNat issues.length ++
    (if issues.length = 1 then (" validation error for " : Text) else " validation errors for ") ++
    form ++ issues.flatMap fun issue => Sign.newline :: paragraph whole issue

/-! ## (4) Reports as objects -/

/-- What a cause says in its own terms. -/
def context : Issue.Cause → List (Text × Json)
  | .shorterThan least => [("ctx", .object [("min_length", .int least)])]
  | .longerThan greatest => [("ctx", .object [("max_length", .int greatest)])]
  | .below least => [("ctx", .object [("ge", .int least)])]
  | .above greatest => [("ctx", .object [("le", .int greatest)])]
  | .noMailbox fault => [("ctx", .object [("reason", .text fault.message)])]
  | _ => []

/-- The full report of an issue in a value. -/
def report (whole : Json) (issue : Issue) : Json :=
  .object (("type", .text issue.cause.kind) :: ("loc", .list (issue.place.map Step.toJson)) ::
    ("msg", .text issue.cause.message) :: ("input", subject whole issue.place) ::
    context issue.cause)

end Issue

end Coursework
