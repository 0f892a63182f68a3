import Coursework.Document.Compilation
import Coursework.Markdown.Block
import Coursework.Markdown.Inline

/-! # Tokens of markdown

Every block of a markdown text becomes a token with the visible text of the block; the kinds of
blocks that a document has no form for become unknown tokens. A text is read only if its links have
addresses, though no token shows one.

* **`Token.ofMarkdown`** are the tokens of a text, **`Token.destinations`** its links.
* **`Token.read`** gives the tokens, or the failure of a link without address.
* **`Compilation.ofMarkdown`** compiles what was read. -/

namespace Coursework

open Markdown

namespace Token

/-- The token of a block, where the given labels are defined. -/
def ofBlock (labels : List Text) : Block → Token
  | .paragraph lines => paragraph (Inline.visible labels (unlines lines))
  | .heading depth content => heading depth (Inline.visible labels content)
  | .thematicBreak => unknown "thematic_break"
  | .blank => space
  | .code content => code content
  | .html => unknown "block_html"
  | .quote _ => unknown "block_quote"
  | .list ordered items =>
    list ordered (items.map fun item => unlines (item.paragraphs.map (Inline.visible labels)))

/-- The tokens of a markdown text in order. -/
def ofMarkdown (source : Text) : List Token :=
  if source.isEmpty then []
  else
    let (blocks, definitions) := Block.ofText source
    blocks.map (ofBlock (definitions.map (·.label)))

/-- The destinations of a markdown text in the order in which their addresses are found: first
those of its definitions, then those within its blocks. -/
def destinations (source : Text) : List Text :=
  let (blocks, definitions) := Block.ofText source
  (Definition.counted definitions).map (·.destination) ++
    (blocks.flatMap Block.sources).flatMap
      (Inline.destinations (definitions.map (·.label)))

/-- The tokens of a markdown text all of whose destinations have addresses. -/
def read (source : Text) : Outcome (List Token) := do
  let _ ← ((destinations source).mapM Link.bytes).mapError Failure.unencodable
  return ofMarkdown source

end Token

/-- The compiled form of a markdown text. -/
def Compilation.ofMarkdown (source : Text) : Outcome Compilation := do
  ofTokens source (← Token.read source)

end Coursework
