import Coursework.Markdown.Draft
import Coursework.Markdown.Html
import Coursework.Markdown.Link

/-! # Blocks of plain lines

The blocks that hold no other blocks. A reader is given the lines from the block on and returns
those behind it.

* **`readFence`** and **`readCode`** read code, **`readHtml`** HTML, **`readBlank`** blank lines,
  **`readDefinition`** a link definition, which is no block. -/

namespace Coursework.Markdown

/-- The lines of code behind an opening fence, and what follows the closing one. -/
def fencedLines (fence : Line.Fence) : List Line → List Line × List Line
  | [] => ([], [])
  | line :: lines =>
    if fence.isClosedBy line then ([], lines)
    else
      let (code, rest) := fencedLines fence lines
      (line.dropSpaces fence.indentation :: code, rest)

/-- Code behind an opening fence. -/
def readFence (fence : Line.Fence) (lines : List Line) (draft : Draft) : Draft × List Line :=
  let (code, rest) := fencedLines fence lines
  (draft.push (.code (Text.trimEnd (· == Sign.newline) (unlines code))), rest)

/-- Whether a line continues indented code: it is indented, or there is nothing to see on it. -/
def continuesCode (line : Line) : Bool := line.isIndented || Text.isBlank line

/-- Indented code, from its first line on. -/
def readCode (lines : List Line) (draft : Draft) : Draft × List Line :=
  let code := (lines.takeWhile continuesCode).map fun line => (line.expandTab 4).dropSpaces 4
  (draft.push (.code (Text.trim (· == Sign.newline) (unlines code))),
    lines.dropWhile continuesCode)

/-- The lines after the first in which a text stands. -/
def afterLineWith (ending : Text) : List Line → List Line
  | [] => []
  | line :: lines => if Text.contains line ending then lines else afterLineWith ending lines

/-- The lines from the next blank one on. -/
def fromBlank (lines : List Line) : List Line := lines.dropWhile (! Line.isBlank ·)

/-- HTML that opens on a line; nothing if the line does not open any after all. -/
def readHtml (line : Line) (lines : List Line) (draft : Draft) : Option (Draft × List Line) :=
  match Html.opening? line with
  | none => none
  | some opening =>
    match opening.extent with
    | .through ending rest => some (draft.push .html, afterLineWith ending (rest :: lines))
    | .toBlankLine => some (draft.push .html, fromBlank lines)
    | .unlessParagraph =>
      if draft.inParagraph then some (draft.addLine line, lines)
      else if opening.holds then some (draft.push .html, fromBlank lines)
      else none

/-- A run of blank lines. -/
def readBlank (lines : List Line) (draft : Draft) : Draft × List Line :=
  (draft.push .blank, lines.dropWhile Line.isBlank)

/-- A link definition at the first of some lines; nothing if there is none. -/
def readDefinition (lines : List Line) (draft : Draft) : Option (Draft × List Line) :=
  if draft.inParagraph || !(lines.head?.any Link.opensDefinition) then none
  else (Link.definition? (lines.flatMap (· ++ [Sign.newline]))).map fun (found, rest) =>
    (draft.define [found], lines.drop (lines.length - rest.count Sign.newline))

end Coursework.Markdown
