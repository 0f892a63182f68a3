import Coursework.Form.Scalar
import Coursework.Form.Fields

/-! # Tokens of a document

A document is a sequence of tokens: headings, paragraphs, lists, code and space. A token of
another kind carries only the name of its kind.

* **`Token`** is the type; **`Token.ofJson`** and **`Token.toJson`** read and write one.
* **`Token.isSpace`** tells space apart. -/

namespace Coursework

open Form Checked

/-- A token of a document. -/
inductive Token
  /-- A heading of a depth from 1 to 6. -/
  | heading (depth : Nat) (content : Text)
  /-- A paragraph. -/
  | paragraph (content : Text)
  /-- A list, with numbers or with bullets. -/
  | list (ordered : Bool) (items : List Text)
  /-- A block of code. -/
  | code (content : Text)
  /-- Space between blocks. -/
  | space
  /-- A block of another kind. -/
  | unknown (kind : Text)
  /-- A value that is no token, of the given kind. -/
  | foreign (kind : Text)
  deriving DecidableEq, Repr, Inhabited

namespace Token

/-- Whether the token is space. -/
def isSpace : Token → Bool
  | space => true
  | _ => false

/-- A token as an object. -/
def toJson : Token → Json
  | heading depth content =>
    .object [("type", .text "heading"), ("depth", .int depth), ("text", .text content)]
  | paragraph content => .object [("type", .text "paragraph"), ("text", .text content)]
  | list ordered items =>
    .object [("type", .text "list"), ("ordered", .bool ordered),
      ("items", .list (items.map fun item => .object [("text", .text item)]))]
  | code content => .object [("type", .text "code"), ("text", .text content)]
  | space => .object [("type", .text "space")]
  | unknown kind => .object [("type", .text "unknown"), ("kind", .text kind)]
  | foreign kind => .text kind

/-- The depth of a heading. -/
def depth (value : Json) : Checked Nat := do
  let value ← integer value
  let value ← atLeast 1 value
  let value ← atMost 6 value
  return value.toNat

/-- The text of an item of a list; it may be left out. -/
def item : Json → Checked Text :=
  describing "ListItem" (withDefault [] ["text"] Form.text)

/-- A token from an object whose field `type` tells its kind. -/
def ofJson : Json → Checked Token :=
  tagged "type"
    [("heading", fun fields =>
        (start heading)
          |>.also (required ["depth"] depth fields)
          |>.also (required ["text"] Form.text fields)),
      ("paragraph", fun fields => (start paragraph).also (required ["text"] Form.text fields)),
      ("list", fun fields =>
        (start list)
          |>.also (withDefault false ["ordered"] boolean fields)
          |>.also (withDefault [] ["items"] (Form.list item) fields)),
      ("code", fun fields => (start code).also (required ["text"] Form.text fields)),
      ("space", fun _ => .ok space),
      ("unknown", fun fields => (start unknown).also (required ["kind"] Form.text fields))]

end Token

end Coursework
