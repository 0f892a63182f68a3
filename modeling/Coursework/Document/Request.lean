import Coursework.Document.Operation

/-! # Requests to the document service

Every operation has a request that the document service understands, and can be read off it.

* **`Operation.request`** is the request of an operation, **`Operation.ofRequest?`** reads one.
* **`Operation.requests`** are those of a list that may hold values which are no operations. -/

namespace Coursework.Operation

/-- A range of positions. -/
def range (first last : Int) : Json :=
  .object [("startIndex", .int first), ("endIndex", .int last)]

/-- The request of an operation. -/
def request : Operation → Json
  | insertText index content =>
    .object [("insertText", .object [("location", .object [("index", .int index)]),
      ("text", .text content)])]
  | setParagraphStyle first last styleName =>
    .object [("updateParagraphStyle", .object [("range", range first last),
      ("paragraphStyle", .object [("namedStyleType", .text styleName)]),
      ("fields", .text "namedStyleType")])]
  | setListBullets first last preset =>
    .object [("createParagraphBullets", .object [("range", range first last),
      ("bulletPreset", .text preset)])]
  | setTextStyle first last fontFamily weight =>
    .object [("updateTextStyle", .object [("range", range first last),
      ("textStyle", .object [("weightedFontFamily", .object [("fontFamily", .text fontFamily),
        ("weight", .int weight)])]),
      ("fields", .text "weightedFontFamily")])]

/-- The value found by following field names. -/
def follow? : List Text → Json → Option Json
  | [], value => some value
  | name :: names, value => (value.get? name).bind (follow? names)

/-- The whole number found by following field names. -/
def integerAt? (names : List Text) (value : Json) : Option Int :=
  match follow? names value with
  | some (.int number) => some number
  | _ => none

/-- The text found by following field names. -/
def textAt? (names : List Text) (value : Json) : Option Text :=
  (follow? names value).bind Json.toText?

/-- The operation of a request. -/
def ofRequest? : Json → Option Operation
  | .object [(name, details)] =>
    let first := integerAt? ["range", "startIndex"] details
    let last := integerAt? ["range", "endIndex"] details
    if name = Text.ofString "insertText" then do
      return insertText (← integerAt? ["location", "index"] details) (← textAt? ["text"] details)
    else if name = Text.ofString "updateParagraphStyle" then do
      return setParagraphStyle (← first) (← last)
        (← textAt? ["paragraphStyle", "namedStyleType"] details)
    else if name = Text.ofString "createParagraphBullets" then do
      return setListBullets (← first) (← last) (← textAt? ["bulletPreset"] details)
    else if name = Text.ofString "updateTextStyle" then do
      return setTextStyle (← first) (← last)
        (← textAt? ["textStyle", "weightedFontFamily", "fontFamily"] details)
        (← integerAt? ["textStyle", "weightedFontFamily", "weight"] details)
    else none
  | _ => none

/-- An element of a list of operations: an operation, or a value of another kind. -/
inductive Candidate
  /-- An operation. -/
  | operation (value : Operation)
  /-- A value of the given kind. -/
  | foreign (kind : Text)
  deriving DecidableEq, Repr

/-- The requests of a list in order; the first element that is no operation refuses the list. -/
def requests : List Candidate → Outcome (List Json)
  | [] => .ok []
  | .operation operation :: candidates => (requests candidates).map (operation.request :: ·)
  | .foreign kind :: _ => .error (.unsupportedOperation kind)

end Coursework.Operation
