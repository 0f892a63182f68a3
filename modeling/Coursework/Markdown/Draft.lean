import Coursework.Markdown.Link

/-! # Blocks of markdown

* **`Block`** is a block of markdown. Of the containers it keeps what can be seen: nothing of a
  quote, the paragraphs of a list item; besides there are their sources, the texts that are
  searched for links.
* **`Draft`** is what has been read so far. The latest block comes first, because a line may still
  continue it, make a heading of it or put another block before it. -/

namespace Coursework.Markdown

/-! ## (1) Blocks -/

/-- What a list item keeps of the blocks in it. -/
structure Item where
  /-- The texts of the paragraphs. -/
  paragraphs : List Text
  /-- All texts that are searched for links. -/
  sources : List Text
  deriving DecidableEq, Repr, Inhabited

/-- A block of markdown. -/
inductive Block
  /-- A paragraph, by its lines. -/
  | paragraph (lines : List Line)
  /-- A heading of a depth. -/
  | heading (depth : Nat) (content : Text)
  /-- A thematic break. -/
  | thematicBreak
  /-- A run of blank lines. -/
  | blank
  /-- Code. -/
  | code (content : Text)
  /-- HTML. -/
  | html
  /-- A quote, by its sources. -/
  | quote (sources : List Text)
  /-- A list. -/
  | list (ordered : Bool) (items : List Item)
  deriving DecidableEq, Repr, Inhabited

/-- Lines as one text. -/
def unlines (lines : List Line) : Text := Text.joinWith [Sign.newline] lines

/-- The texts of a block that are searched for links. -/
def Block.sources : Block → List Text
  | paragraph lines => [unlines lines]
  | heading _ content => [content]
  | thematicBreak | blank | code _ | html => []
  | quote sources => sources
  | list _ items => items.flatMap (·.sources)

/-! ## (2) Drafts -/

/-- The blocks and the link definitions read so far. -/
structure Draft where
  /-- The blocks, the latest first. -/
  blocks : List Block := []
  /-- The definitions, the latest first. -/
  definitions : List Definition := []
  deriving DecidableEq, Repr, Inhabited

namespace Draft

/-- One more block. -/
def push (draft : Draft) (block : Block) : Draft := { draft with blocks := block :: draft.blocks }

/-- Whether the latest block is a paragraph. -/
def inParagraph (draft : Draft) : Bool :=
  match draft.blocks with
  | .paragraph _ :: _ => true
  | _ => false

/-- A line of text, which continues the latest paragraph or begins one. -/
def addLine (draft : Draft) (line : Line) : Draft :=
  match draft.blocks with
  | .paragraph lines :: blocks => { draft with blocks := .paragraph (lines ++ [line]) :: blocks }
  | _ => draft.push (.paragraph [line])

/-- The latest paragraph becomes a heading. -/
def promote (draft : Draft) (depth : Nat) : Draft :=
  match draft.blocks with
  | .paragraph lines :: blocks =>
    { draft with blocks := .heading depth (unlines lines) :: blocks }
  | _ => draft

/-- A block with as many blocks before it as given. -/
def insertAt (draft : Draft) (index : Nat) (block : Block) : Draft :=
  let later := draft.blocks.length - index
  { draft with blocks := draft.blocks.take later ++ block :: draft.blocks.drop later }

/-- A block before the latest one. -/
def insertBeforeLast (draft : Draft) (block : Block) : Draft :=
  draft.insertAt (draft.blocks.length - 1) block

/-- Definitions that were read elsewhere. -/
def define (draft : Draft) (definitions : List Definition) : Draft :=
  { draft with definitions := definitions ++ draft.definitions }

/-- The texts of the paragraphs, in order. -/
def paragraphs (draft : Draft) : List Text :=
  draft.blocks.reverse.filterMap fun
    | .paragraph lines => some (unlines lines)
    | _ => none

/-- The sources, in order. -/
def sources (draft : Draft) : List Text := draft.blocks.reverse.flatMap Block.sources

/-- What is kept of the blocks of a list item. -/
def item (draft : Draft) : Item := ⟨draft.paragraphs, draft.sources⟩

end Draft

end Coursework.Markdown
