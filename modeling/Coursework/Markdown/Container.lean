import Coursework.Markdown.Leaf

/-! # Quotes and lists

Containers hold blocks. Their lines, freed of the marks, are read as texts of their own, of which
only the paragraphs of list items, the link definitions and the sources of links matter.

* **`readQuote`** and **`readList`** gather the lines of a container, up to a line that neither
  belongs to it nor continues a paragraph in it.

The readers call each other, since a list may end a quote and a quote an item; each takes one
step, and there are enough steps for the lines at hand. Containers are counted: beyond
`depthLimit` a quote opens no quote and a list no list. -/

namespace Coursework.Markdown

/-- The rules for containers at a level. -/
structure Rules where
  /-- Whether quotes are read. -/
  quotes : Bool := true
  /-- Whether lists are read. -/
  lists : Bool := true

/-- The number of containers that may stand within each other. -/
def depthLimit : Nat := 20

/-- How the text of a container is read, and whether it is as deep as containers go. -/
structure Nesting where
  /-- Reads the lines of a container. -/
  read : Rules → List Line → Draft
  /-- Whether the limit is reached. -/
  deep : Bool

/-- The lines that start with the mark of a quote, freed of it, and the others from the first
without it. -/
def markedLines : List Line → List Line × List Line
  | [] => ([], [])
  | line :: lines =>
    match Line.quoted? 3 line with
    | none => ([], line :: lines)
    | some content =>
      let (marked, rest) := markedLines lines
      ((content.expandTab 3).dropSpaces 1 :: marked, rest)

/-- Whether marked lines end with a blank one, so that the quote is not continued without mark. -/
def endBlank (marked : List Line) : Bool :=
  marked.all Text.isBlank ||
    (2 ≤ marked.length && ((marked.getLast?.map (·.all Line.isInline)).getD false))

/-- What ended the gathering of an item. -/
inductive ItemEnd
  /-- Nothing but another line. -/
  | plain
  /-- Another item of the list. -/
  | item (mark : Line.ListMark)
  /-- Another block, which was read; so many blocks stood before. -/
  | block (index : Nat)

/-- The gathered lines of an item, the draft and the lines left. -/
structure Gathered where
  /-- The lines of the item. -/
  lines : List Line
  /-- What ended it. -/
  ending : ItemEnd
  /-- The blocks around it. -/
  draft : Draft
  /-- What follows. -/
  rest : List Line

/-- How the lines of an item are told from others. -/
structure ItemShape where
  /-- The bullet, or the sign after the number. -/
  sign : Nat
  /-- The number of spaces that a mark may have before it. -/
  most : Nat
  /-- The number of spaces before the lines of the item. -/
  width : Nat
  /-- Whether there is no text beside the mark. -/
  startsEmpty : Bool

/-- The first line of an item and the shape of its lines. -/
def itemShape (mark : Line.ListMark) : List Line × ItemShape :=
  let text := (mark.rest.expandTab 3).widenTab
  let most := min mark.width 3
  if Text.isBlank text then ([], ⟨mark.sign, most, mark.width + 1, true⟩)
  else
    let gap := (text.takeWhile Sign.isBlank).length
    let space := if 5 ≤ text.indentation then 1 else gap
    ([text.drop space], ⟨mark.sign, most, mark.width + space, false⟩)

/-- Lines without the blank ones at their end; the first is kept. -/
def withoutBlankEnd : List Line → List Line
  | [] => []
  | first :: lines => first :: (lines.reverse.dropWhile Text.isBlank).reverse

mutual

/-- A quote, by the text beside its first mark. -/
def readQuote (nesting : Nesting) (steps : Nat) (first : Line) (lines : List Line)
    (draft : Draft) : Draft × List Line :=
  match steps with
  | 0 => (draft, lines)
  | steps + 1 =>
    let first := (first.expandTab 3).dropSpaces 1
    -- code and blank lines are continued by marked lines only, a paragraph by others too
    let (gathered, around, rest, ended) :=
      if first.isBlank || first.isIndented || (Line.fence? 3 first).isSome then
        let (marked, rest) := markedLines lines
        (first :: marked, draft, rest, false)
      else gatherQuote nesting steps [first] false lines draft
    let inner := nesting.read { quotes := !nesting.deep } (gathered.map Line.widenTab)
    let around := around.define inner.definitions
    let quote := Block.quote inner.sources
    if ended then (around.insertBeforeLast quote, rest) else (around.push quote, rest)

/-- The lines of a quote after those gathered; the last component tells whether another block was
read. -/
def gatherQuote (nesting : Nesting) (steps : Nat) (gathered : List Line) (afterBlank : Bool)
    (lines : List Line) (draft : Draft) : List Line × Draft × List Line × Bool :=
  match steps with
  | 0 => (gathered, draft, lines, false)
  | steps + 1 =>
    match lines with
    | [] => (gathered, draft, [], false)
    | line :: rest =>
      match markedLines lines with
      | ([], _) =>
        if afterBlank then (gathered, draft, lines, false)
        else match interruptQuote nesting steps line rest draft with
          | some (draft, rest) => (gathered, draft, rest, true)
          | none => gatherQuote nesting steps (gathered ++ [line.expandTab 3]) false rest draft
      | (marked, rest) =>
        gatherQuote nesting steps (gathered ++ marked) (endBlank marked) rest draft

/-- The block that ends a quote at a line without mark, if there is one. -/
def interruptQuote (nesting : Nesting) (steps : Nat) (line : Line) (lines : List Line)
    (draft : Draft) : Option (Draft × List Line) :=
  match steps with
  | 0 => none
  | steps + 1 =>
    if line.isBlank then some (readBlank lines draft)
    else if line.isThematicBreak 3 then some (draft.push .thematicBreak, lines)
    else match Line.fence? 3 line with
      | some fence => if fence.opens then some (readFence fence lines draft) else none
      | none =>
        match Line.listMark? 3 line with
        | some mark => some (readList nesting steps line mark lines draft)
        | none => if Html.opensAfterText 3 line then readHtml line lines draft else none

/-- A list, by the mark on its first line; an empty item, and a number other than one, continue a
paragraph instead. -/
def readList (nesting : Nesting) (steps : Nat) (line : Line) (mark : Line.ListMark)
    (lines : List Line) (draft : Draft) : Draft × List Line :=
  match steps with
  | 0 => (draft, lines)
  | steps + 1 =>
    if draft.inParagraph && (Text.isBlank mark.rest || (mark.isOrdered && mark.number != 1)) then
      (draft.addLine line, lines)
    else
      let (items, around, rest, index) := readItems nesting steps mark lines draft
      let list := Block.list mark.isOrdered items
      match index with
      | some index => (around.insertAt index list, rest)
      | none => (around.push list, rest)

/-- The items of a list from one mark on; the last component is the place of the list, if another
block was read after it. -/
def readItems (nesting : Nesting) (steps : Nat) (mark : Line.ListMark) (lines : List Line)
    (draft : Draft) : List Item × Draft × List Line × Option Nat :=
  match steps with
  | 0 => ([], draft, lines, none)
  | steps + 1 =>
    let (first, shape) := itemShape mark
    let gathered := gatherItem nesting steps shape [] false lines draft
    let inner := nesting.read { lists := !nesting.deep } (withoutBlankEnd (first ++ gathered.lines))
    let draft := gathered.draft.define inner.definitions
    match gathered.ending with
    | .plain => ([inner.item], draft, gathered.rest, none)
    | .block index => ([inner.item], draft, gathered.rest, some index)
    | .item mark =>
      let (items, draft, rest, index) := readItems nesting steps mark gathered.rest draft
      (inner.item :: items, draft, rest, index)

/-- The lines of an item after those gathered. -/
def gatherItem (nesting : Nesting) (steps : Nat) (shape : ItemShape) (gathered : List Line)
    (afterBlank : Bool) (lines : List Line) (draft : Draft) : Gathered :=
  match steps with
  | 0 => ⟨gathered, .plain, draft, lines⟩
  | steps + 1 =>
    match lines with
    | [] => ⟨gathered, .plain, draft, []⟩
    | line :: rest =>
      if line.isBlank then gatherItem nesting steps shape (gathered ++ [[]]) true rest draft
      else
        let expanded := line.expandTab 4
        if shape.width ≤ expanded.indentation then
          -- an item without text beside its mark does not begin behind a blank line
          if afterBlank && shape.startsEmpty && gathered.all Text.isBlank then
            ⟨gathered, .plain, draft, lines⟩
          else
            gatherItem nesting steps shape
              (gathered ++ [Line.widenTab (expanded.drop shape.width)]) false rest draft
        else match interruptItem nesting steps shape line rest draft with
          | some (ending, draft, rest) => ⟨gathered, ending, draft, rest⟩
          | none =>
            -- a line that is not indented continues a paragraph of the item
            if afterBlank then ⟨gathered, .plain, draft, lines⟩
            else gatherItem nesting steps shape (gathered ++ [expanded]) false rest draft

/-- What ends an item at a line that is not indented like it, if anything does. -/
def interruptItem (nesting : Nesting) (steps : Nat) (shape : ItemShape) (line : Line)
    (lines : List Line) (draft : Draft) : Option (ItemEnd × Draft × List Line) :=
  match steps with
  | 0 => none
  | steps + 1 =>
    let block (found : Draft × List Line) : ItemEnd × Draft × List Line :=
      (.block draft.blocks.length, found)
    if line.isThematicBreak shape.most then some (block (draft.push .thematicBreak, lines))
    else match Line.nextMark? shape.most shape.sign line with
      | some mark => some (.item mark, draft, lines)
      | none =>
        match Line.fence? shape.most line with
        | some fence => if fence.opens then some (block (readFence fence lines draft)) else none
        | none =>
          match Line.heading? shape.most line with
          | some (depth, content) => some (block (draft.push (.heading depth content), lines))
          | none =>
            match Line.quoted? shape.most line with
            | some first => some (block (readQuote nesting steps first lines draft))
            | none =>
              if Html.opensAfterText shape.most line then
                (readHtml line lines draft).map block
              else match Line.listMark? shape.most line with
                | some _ => some (.plain, draft, line :: lines)
                | none => none

end

end Coursework.Markdown
