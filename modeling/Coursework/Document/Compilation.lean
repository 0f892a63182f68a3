import Coursework.Document.Token
import Coursework.Document.Operation
import Coursework.Diagnostic
import Coursework.Text.Blank

/-! # From tokens to operations

Every token inserts its text at the cursor, gives the range that it has just filled its style and
leaves the cursor behind it. The operations of a document are those of its tokens in order, so
each token is placed by the lengths of the texts before it.

* **`Token.compile`** is one step, **`Token.compileAll`** threads the cursor through a document.
* **`Compilation.ofTokens`** adds the diagnostics, and a fallback when nothing was inserted. -/

namespace Coursework

/-! ## (1) One token -/

/-- The operations of a part of a document and the cursor behind it. -/
structure Placed where
  /-- The operations in order. -/
  operations : List Operation
  /-- The next free position. -/
  cursor : Int
  deriving DecidableEq, Repr, Inhabited

/-- The length of a text in a document: its UTF-16 units. -/
def Text.documentLength (text : Text) : Outcome Nat :=
  text.utf16Length.mapError Failure.unencodable

namespace Token

/-- A text with the line end that closes it. -/
def line (content : Text) : Text := content ++ [Sign.newline]

/-- The style of a heading. -/
def headingStyle (depth : Nat) : Text := ("HEADING_" : Text) ++ Text.ofNat depth

/-- What stands before an item with a bullet. -/
def bullet : Text := "• "

/-- The bullets of a list. -/
def bulletPreset : Text := "BULLET_ARROW_DIAMOND_DISC"

/-- The font of code. -/
def codeFont : Text := "Courier New"

/-- The weight of the font of code. -/
def codeWeight : Int := 400

/-- The text of an item: its number or a bullet, and its own text. -/
def itemLine (ordered : Bool) (number : Nat) (item : Text) : Text :=
  line ((if ordered then Text.ofNat number ++ ". " else bullet) ++ item)

/-- The operations of the items of a list from the given number on; blank items are left out and
keep their number. -/
def compileItems (ordered : Bool) : Nat → Int → List Text → Outcome Placed
  | _, cursor, [] => .ok ⟨[], cursor⟩
  | number, cursor, item :: items => do
    if item.isBlank then compileItems ordered (number + 1) cursor items
    else
      let content := itemLine ordered number item
      let length ← content.documentLength
      let insertion ← Operation.inserting cursor content
      let style := if ordered then [] else
        [Operation.setListBullets cursor (cursor + length - 1) bulletPreset]
      let rest ← compileItems ordered (number + 1) (cursor + length) items
      return ⟨insertion :: style ++ rest.operations, rest.cursor⟩

/-- The operations of a token at the cursor, and the cursor behind it. -/
def compile (cursor : Int) : Token → Outcome Placed
  | heading depth content => do
    let length ← (line content).documentLength
    let insertion ← Operation.inserting cursor (line content)
    return ⟨[insertion, .setParagraphStyle cursor (cursor + length) (headingStyle depth)],
      cursor + length⟩
  | paragraph content => do
    let insertion ← Operation.inserting cursor (line content)
    let length ← (line content).documentLength
    return ⟨[insertion], cursor + length⟩
  | list ordered items => compileItems ordered 1 cursor items
  | code content => do
    let length ← (line content).documentLength
    let insertion ← Operation.inserting cursor (line content)
    return ⟨[insertion, .setTextStyle cursor (cursor + length) codeFont codeWeight],
      cursor + length⟩
  | space => .ok ⟨[], cursor⟩
  | unknown _ => .ok ⟨[], cursor⟩
  | foreign _ => .ok ⟨[], cursor⟩

/-- The name of a token's kind, if the token has no form in a document. -/
def unrecognised? : Token → Option Text
  | unknown kind => some kind
  | foreign kind => some kind
  | heading _ _ | paragraph _ | list _ _ | code _ | space => none

/-! ## (2) A document -/

/-- The operations of tokens from a cursor on, and the cursor behind them. -/
def compileAll (cursor : Int) : List Token → Outcome Placed
  | [] => .ok ⟨[], cursor⟩
  | token :: tokens => do
    let first ← token.compile cursor
    let rest ← compileAll first.cursor tokens
    return ⟨first.operations ++ rest.operations, rest.cursor⟩

/-- The steps of tokens from a cursor on, each with its own operations; a step that fails leaves
the cursor where it was. -/
def compileEach (cursor : Int) : List (Outcome Token) → List (Outcome Placed)
  | [] => []
  | .error failure :: tokens => .error failure :: compileEach cursor tokens
  | .ok token :: tokens =>
    match token.compile cursor with
    | .error failure => .error failure :: compileEach cursor tokens
    | .ok placed => .ok placed :: compileEach placed.cursor tokens

/-- The diagnostics of tokens from a cursor on: one for each token without a form. -/
def diagnose (cursor : Int) : List Token → List Diagnostic
  | [] => []
  | token :: tokens =>
    let rest := match token.compile cursor with
      | .ok placed => diagnose placed.cursor tokens
      | .error _ => []
    match token.unrecognised? with
    | some kind => .unrecognised kind cursor :: rest
    | none => rest

end Token

/-- The compiled form of a document. -/
structure Compilation where
  /-- The operations in order. -/
  operations : List Operation
  /-- The position behind the whole text. -/
  finalCursor : Int
  /-- What was noticed. -/
  diagnostics : List Diagnostic
  deriving DecidableEq, Repr, Inhabited

namespace Compilation

/-- The first position of a document. -/
def startIndex : Int := 1

/-- What precedes a text that could not be formatted. -/
def fallbackHeading : Text := "⚠️ Formatting failed. Raw content:\n"

/-- The compiled form of tokens; if they insert nothing, their source is inserted as it is. -/
def ofTokens (source : Text) (tokens : List Token) : Outcome Compilation := do
  let placed ← Token.compileAll startIndex tokens
  let noticed := Token.diagnose startIndex tokens
  if placed.operations.isEmpty then
    let content := fallbackHeading ++ source
    let length ← content.documentLength
    return ⟨[.insertText startIndex content], startIndex + length,
      noticed ++ [.emptyOutput source.length]⟩
  else return ⟨placed.operations, placed.cursor, noticed⟩

/-- A compiled form as an object. -/
def toJson (compilation : Compilation) : Json :=
  .object [("operations", .list (compilation.operations.map Operation.toJson)),
    ("final_cursor", .int compilation.finalCursor),
    ("diagnostics", .list (compilation.diagnostics.map Diagnostic.toJson))]

end Compilation

end Coursework
