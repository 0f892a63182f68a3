import Coursework.Failure
import Coursework.Text.Blank

/-! # Academic context

Every prompt holds a paragraph on what assignments should be like. It is kept in a file; a file
that cannot be read gives way to a paragraph of this library.

* **`AcademicContext.load`** is the paragraph for what is found in the place of the file. -/

namespace Coursework.AcademicContext

/-- What is found in the place of the file. -/
inductive Source
  /-- Nothing. -/
  | missing
  /-- A directory. -/
  | directory
  /-- A file of some bytes. -/
  | file (bytes : List Nat)

/-- The paragraph for a file that cannot be read. -/
def builtIn : Text :=
  Text.joinWith [Sign.space]
    ["Academic assignments should follow a structured format with an introduction,",
      "clearly defined objectives, well-researched content, and a robust grading rubric.",
      "Assignments must challenge students to apply critical thinking and demonstrate",
      "their understanding of the subject."]

/-- What stands for a blank file. -/
def ofBlankFile : Text := "No additional academic context provided."

/-- The paragraph of a file whose bytes are a text. -/
def ofText (content : Text) : Text :=
  let content := content.unixLines.strip
  if content.isEmpty then ofBlankFile else content

/-- The paragraph for what is found. -/
def load : Source → Outcome Text
  | .missing => .ok builtIn
  | .directory => .ok builtIn
  | .file bytes => ((Text.ofUtf8 bytes).map ofText).mapError Failure.undecodable

/-- The paragraph of the file that comes with the service. -/
def supplied : Text :=
  Text.joinWith [Sign.newline]
    ["Academic assignments should follow a structured format with an introduction,",
      "clearly defined objectives, well-researched content, and a robust grading rubric.",
      "Each task should state what the student must produce and how it will be assessed.",
      "Assignments must challenge students to apply critical thinking and demonstrate",
      "their understanding of the subject."]

end Coursework.AcademicContext
