import Coursework.Markdown.Container

/-! # Levels of markdown

A text is read line by line into blocks. A line continues the paragraph before it unless it opens
another block.

* **`readBlock`** reads the block at a line, **`readLines`** the blocks of one level.
* **`Block.ofText`** reads a whole text. -/

namespace Coursework.Markdown

/-- The steps that the readers of containers need for some lines. -/
def stepsFor (lines : List Line) : Nat := 4 * lines.length + 8

/-- The block at the first of some lines, and the lines that follow it. -/
def readBlock (nesting : Nesting) (rules : Rules) (line : Line) (lines : List Line)
    (draft : Draft) : Draft × List Line :=
  let asText := (draft.addLine line, lines)
  match Line.fence? 3 line with
  | some fence => if fence.opens then readFence fence lines draft else asText
  | none =>
    if line.isIndented then
      if draft.inParagraph then asText
      else if line.isBlank then readBlank lines draft
      else readCode (line :: lines) draft
    else match Line.heading? 3 line with
      | some (depth, content) => (draft.push (.heading depth content), lines)
      | none =>
        let underline := Line.underline? line
        -- an underline comes before a thematic break and a list, which it may look like
        match underline, draft.inParagraph with
        | some depth, true => (draft.promote depth, lines)
        | _, _ =>
          if line.isThematicBreak 3 then (draft.push .thematicBreak, lines)
          else match if rules.quotes then Line.quoted? 3 line else none with
            | some first => readQuote nesting (stepsFor lines) first lines draft
            | none =>
              match if rules.lists || underline.isSome then Line.listMark? 3 line else none with
              | some mark => readList nesting (stepsFor lines) line mark lines draft
              | none =>
                if line.isBlank then readBlank lines draft
                else
                  ((readDefinition (line :: lines) draft).or
                    (readHtml line lines draft)).getD asText

/-- The blocks of lines after those read; every block takes one of the steps. -/
def readFrom (nesting : Nesting) (rules : Rules) : Nat → List Line → Draft → Draft
  | 0, _, draft => draft
  | _ + 1, [], draft => draft
  | steps + 1, line :: lines, draft =>
    let (draft, rest) := readBlock nesting rules line lines draft
    readFrom nesting rules steps rest draft

/-- The blocks of lines at a depth, with containers within each other at most as often as there
are levels left. -/
def readLines : Nat → Nat → Rules → List Line → Draft
  | 0, _, _, _ => {}
  | levels + 1, depth, rules, lines =>
    readFrom ⟨readLines levels (depth + 1), depthLimit ≤ depth + 1⟩ rules lines.length lines {}

/-- The lines of a text; a line end at the end of the text closes the last one. -/
def linesOf (text : Text) : List Line :=
  let text := text.unixLines
  if text.endsWith [Sign.newline] then text.lines.dropLast else text.lines

/-- The blocks of a text in order, and the link definitions in it, the latest first. -/
def Block.ofText (text : Text) : List Block × List Definition :=
  let draft := readLines (text.length + 1) 0 {} (linesOf text)
  (draft.blocks.reverse, draft.definitions)

end Coursework.Markdown
