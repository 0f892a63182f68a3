import Coursework.Assignment.Placeholders
import Coursework.Text.Digit

/-! # The outline of an assignment

The document of an assignment is written in markdown: a title and five sections, each a heading
and its text, with blank lines between them. Every text is normalised so that it stays a
paragraph of its own: runs of blank lines become a space, lines lose the white space at their
ends, and a line that would open another block gets a backslash.

* **`Outline.escapeLine`**, **`Outline.body`** and **`Outline.heading`** normalise texts.
* **`Outline.blocks`** are the pieces of a document, **`Outline.render`** the document. -/

namespace Coursework.Outline

/-! ## (1) Lines -/

/-- The signs that open a block at the start of a line. -/
def opensBlock (sign : Nat) : Bool :=
  sign == Sign.hash || sign == Sign.greaterThan || sign == Sign.asterisk || sign == Sign.plus ||
    sign == Sign.hyphen || sign == Sign.equals || sign == Sign.backtick || sign == Sign.tilde ||
    sign == Sign.lessThan

/-- The digits that begin a line and what follows them, if that is the mark of an ordered list:
a point or a parenthesis at the end of the line or before white space. -/
def orderedMark? (line : Text) : Option (Text × Text) :=
  match line.span Sign.isDecimal with
  | ([], _) => none
  | (digits, mark :: rest) =>
    if (mark = Sign.fullStop || mark = Sign.rightParenthesis) &&
        (rest.isEmpty || (rest.take 1).any Sign.isBlank) then
      some (digits, mark :: rest)
    else none
  | (_, []) => none

/-- A line without white space at its ends, with a backslash before the mark of a block. -/
def escapeLine (line : Text) : Text :=
  let line := line.strip
  match orderedMark? line with
  | some (digits, rest) => digits ++ Sign.backslash :: rest
  | none => if (line.take 1).any opensBlock then Sign.backslash :: line else line

/-! ## (2) Texts -/

/-- Line feeds after a carriage return lose it. -/
def dropReturns : Text → Text
  | Sign.carriageReturn :: Sign.newline :: text => Sign.newline :: dropReturns text
  | sign :: text => sign :: dropReturns text
  | [] => []

/-- Whether a line ends within the white space at the start of a text. -/
def lineEnds (text : Text) : Bool := (text.takeWhile Sign.isBlank).any (· == Sign.newline)

/-- A text with a space for each run of blank lines; `folding` tells that such a run has begun,
which lasts while another line ends within the white space. -/
def foldBlankLinesFrom (folding : Bool) : Text → Text
  | [] => []
  | sign :: text =>
    if folding then
      if lineEnds (sign :: text) then foldBlankLinesFrom true text
      else sign :: foldBlankLinesFrom false text
    else if sign = Sign.newline && lineEnds text then
      Sign.space :: foldBlankLinesFrom true text
    else sign :: foldBlankLinesFrom false text

/-- A text with a space for each run of blank lines and the line ends around it. -/
def foldBlankLines (text : Text) : Text := foldBlankLinesFrom false text

/-- The normalised form of a text: no blank line, and no line that would open a block. -/
def normalise (text : Text) : Text :=
  Text.joinWith [Sign.newline] ((foldBlankLines (dropReturns text)).strip.lines.map escapeLine)

/-- The normalised text of a value, or the placeholder if there is none. -/
def body (value : Option Json) (placeholder : Text) : Text :=
  match value with
  | none => placeholder
  | some value =>
    if value.isVoid then placeholder
    else if (foldBlankLines (dropReturns value.display)).isBlank then placeholder
    else normalise value.display

/-- The words of a text on one line, which opens no block. -/
def foldLine (text : Text) : Text := escapeLine (Text.joinWith [Sign.space] text.words)

/-- The title that a value gives, or the placeholder. -/
def heading (value : Option Json) (placeholder : Text) : Text :=
  match value with
  | none => placeholder
  | some value =>
    if value.isVoid || value.display.words.isEmpty then placeholder else foldLine value.display

/-! ## (3) Blocks -/

/-- What is said of a task: its number, its text and its marks. -/
def taskLine (number : Nat) (description weightage : Text) : Text :=
  ("Task " : Text) ++ Text.ofNat number ++ ": " ++ description ++ " (Weightage: " ++ weightage ++
    " marks)"

/-- What is said of the task that a value describes. -/
def taskBlock (placeholders : Placeholders) (number : Nat) (task : Json) : Text :=
  taskLine number (body (task.get? "description") placeholders.description)
    (body (task.get? "weightage") placeholders.weightage)

/-- What is said of tasks, numbered from the given number on. -/
def taskBlocksFrom (placeholders : Placeholders) : Nat → List Json → List Text
  | _, [] => []
  | number, task :: tasks =>
    taskBlock placeholders number task :: taskBlocksFrom placeholders (number + 1) tasks

/-- The tasks that a value lists, none if it is no list. -/
def listed : Option Json → List Json
  | some (.list items) => items
  | _ => []

/-- What is said of the tasks listed, or of the placeholder tasks if there are none. -/
def taskBlocks (placeholders : Placeholders) (tasks : Option Json) : List Text :=
  match listed tasks with
  | [] => taskBlocksFrom placeholders 1 (placeholders.tasks.map Task.toJson)
  | tasks => taskBlocksFrom placeholders 1 tasks

/-- The number of tasks that is shown: the field's own, or that of the tasks listed. -/
def shownCount (count tasks : Option Json) : Option Json :=
  if (count.getD .null).isVoid then
    match listed tasks with
    | [] => count
    | items => some (.int items.length)
  else count

/-- The blocks of the document of an object's fields. -/
def blocks (placeholders : Placeholders) (fields : List (Text × Json)) : List Text :=
  let field (name : Text) := Json.fieldIn? name fields
  let tasks := field "tasks"
  [("# " : Text) ++ heading (field "title") placeholders.title,
    "## Deadline", body (field "deadline") placeholders.deadline,
    "## Number of Tasks", body (shownCount (field "numberOfTasks") tasks) placeholders.taskCount,
    "## Tasks"] ++ taskBlocks placeholders tasks ++
  [("## Total Weightage Marks" : Text), body (field "totalMarksWeightage") placeholders.totalMarks,
    "## Evaluation Criteria", body (field "evaluationCriteria") placeholders.criteria]

/-- The document of an object's fields. -/
def renderFields (placeholders : Placeholders) (fields : List (Text × Json)) : Text :=
  (Text.joinWith [Sign.newline, Sign.newline] (blocks placeholders fields)).strip

/-- The document of a value; one that is no object has no fields. -/
def renderJson (placeholders : Placeholders) (value : Json) : Text :=
  renderFields placeholders (value.toFields?.getD [])

/-- The document of an assignment. -/
def render (placeholders : Placeholders) (record : Record) : Text :=
  renderJson placeholders record.toJson

end Coursework.Outline
