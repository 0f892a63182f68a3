import Coursework.Failure
import Coursework.Form.Scalar
import Coursework.Form.Fields

/-! # Edit operations

A document is filled by operations: a text is inserted at a position, or a range gets a style.
Positions count UTF-16 units from 1.

* **`Operation`** is the type; **`Operation.ofJson`** and **`Operation.toJson`** read and write
  one.
* **`Operation.inserting`** refuses positions before the start. -/

namespace Coursework

open Form Checked

/-- An edit operation. -/
inductive Operation
  /-- A text is inserted at a position. -/
  | insertText (index : Int) (content : Text)
  /-- The paragraphs of a range get a named style. -/
  | setParagraphStyle (first last : Int) (styleName : Text)
  /-- The paragraphs of a range get bullets. -/
  | setListBullets (first last : Int) (preset : Text)
  /-- The text of a range gets a font. -/
  | setTextStyle (first last : Int) (fontFamily : Text) (weight : Int)
  deriving DecidableEq, Repr, Inhabited

namespace Operation

/-- The insertion of a text at a position, which must not lie before the start. -/
def inserting (index : Int) (content : Text) : Outcome Operation :=
  match within (.field "index") (atLeast 1 index) with
  | .ok index => .ok (insertText index content)
  | .error issues => .error (.invalid "InsertText"
      (.object [("index", .int index), ("text", .text content)]) issues)

/-- An operation as an object. -/
def toJson : Operation → Json
  | insertText index content =>
    .object [("kind", .text "insert_text"), ("index", .int index), ("text", .text content)]
  | setParagraphStyle first last styleName =>
    .object [("kind", .text "set_paragraph_style"), ("start", .int first), ("end", .int last),
      ("style_name", .text styleName)]
  | setListBullets first last preset =>
    .object [("kind", .text "set_list_bullets"), ("start", .int first), ("end", .int last),
      ("preset", .text preset)]
  | setTextStyle first last fontFamily weight =>
    .object [("kind", .text "set_text_style"), ("start", .int first), ("end", .int last),
      ("font_family", .text fontFamily), ("weight", .int weight)]

/-- A position from the start on. -/
def position (value : Json) : Checked Int := do
  let value ← integer value
  atLeast 1 value

/-- An operation from an object whose field `kind` tells its kind. -/
def ofJson : Json → Checked Operation :=
  tagged "kind"
    [("insert_text", fun fields =>
        (start insertText)
          |>.also (required ["index"] position fields)
          |>.also (required ["text"] Form.text fields)),
      ("set_paragraph_style", fun fields =>
        (start setParagraphStyle)
          |>.also (required ["start"] integer fields)
          |>.also (required ["end"] integer fields)
          |>.also (required ["style_name"] Form.text fields)),
      ("set_list_bullets", fun fields =>
        (start setListBullets)
          |>.also (required ["start"] integer fields)
          |>.also (required ["end"] integer fields)
          |>.also (required ["preset"] Form.text fields)),
      ("set_text_style", fun fields =>
        (start setTextStyle)
          |>.also (required ["start"] integer fields)
          |>.also (required ["end"] integer fields)
          |>.also (required ["font_family"] Form.text fields)
          |>.also (required ["weight"] integer fields))]

end Operation

end Coursework
