import Coursework.Assignment.Outline
import Coursework.Assignment.Reply
import Coursework.Document.Markdown

/-! # Content of a document

The content of a document is an assignment, an object with the fields of one, or a text. A text
that looks like JSON is decoded as a reply and shown as an assignment; any other is markdown.

* **`Content`** is the type, **`Content.markdown`** the markdown that is inserted, and
  **`Content.compile`** what it is compiled to. -/

namespace Coursework

/-- What a document is made of. -/
inductive Content
  /-- An assignment. -/
  | record (assignment : Record)
  /-- Any other value. -/
  | value (other : Json)

namespace Content

/-- Whether a text looks like JSON: an object, or a fence that announces one. -/
def looksLikeJson (text : Text) : Bool :=
  let trimmed := text.strip
  trimmed.startsWith [Sign.leftBrace] || trimmed.startsWith "```json"

/-- The markdown of a text. -/
def markdownOfText (placeholders : Placeholders) (text : Text) : Outcome Text :=
  if looksLikeJson text then
    (Reply.decode (.text text)).map (Outline.renderFields placeholders)
  else .ok text

/-- The markdown of a content. -/
def markdown (placeholders : Placeholders) : Content → Outcome Text
  | record assignment => .ok (Outline.render placeholders assignment)
  | value (.object fields) => .ok (Outline.renderFields placeholders fields)
  | value other => do markdownOfText placeholders (← Reply.textOf other)

/-- The compiled operations of a content. -/
def compile (placeholders : Placeholders) (content : Content) : Outcome Compilation := do
  let markdown ← content.markdown placeholders
  Compilation.ofMarkdown markdown

end Content

end Coursework
