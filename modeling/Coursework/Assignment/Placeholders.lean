import Coursework.Assignment.Record

/-! # Placeholders

What a document shows for a field that has no text of its own.

* **`Placeholders`** are the texts, with the usual ones as defaults.
* **`Placeholders.ofJson`** reads those that an object gives. -/

namespace Coursework

open Form Checked

/-- One of the usual placeholder tasks. -/
def Task.placeholder (number : Nat) : Task where
  description := ("Auto-generated Task " : Text) ++ Text.ofNat number ++ " details"
  weightage := .text "Auto-generated weightage"

/-- What is shown for fields without text. -/
structure Placeholders where
  /-- For the title. -/
  title : Text := "Untitled Assignment"
  /-- For the deadline. -/
  deadline : Text := "Deadline not specified"
  /-- For the number of tasks. -/
  taskCount : Text := "Not specified"
  /-- For the description of a task. -/
  description : Text := "No description provided"
  /-- For the marks of a task. -/
  weightage : Text := "Not specified"
  /-- For the marks of the whole assignment. -/
  totalMarks : Text := "100"
  /-- For the criteria. -/
  criteria : Text := "Auto-generated evaluation criteria"
  /-- For the tasks, if there are none. -/
  tasks : List Task := [Task.placeholder 1, Task.placeholder 2, Task.placeholder 3]
  deriving DecidableEq, Repr

namespace Placeholders

/-- The usual placeholders. -/
def usual : Placeholders := {}

/-- The placeholders that an object gives, and the usual ones for the others. -/
def ofJson : Json → Checked Placeholders :=
  describing "RenderDefaults" fun fields =>
    (start Placeholders.mk)
      |>.also (withDefault usual.title ["title"] Form.text fields)
      |>.also (withDefault usual.deadline ["deadline"] Form.text fields)
      |>.also (withDefault usual.taskCount ["number_of_tasks"] Form.text fields)
      |>.also (withDefault usual.description ["task_description"] Form.text fields)
      |>.also (withDefault usual.weightage ["task_weightage"] Form.text fields)
      |>.also (withDefault usual.totalMarks ["total_marks_weightage"] Form.text fields)
      |>.also (withDefault usual.criteria ["evaluation_criteria"] Form.text fields)
      |>.also (withDefault usual.tasks ["placeholder_tasks"] (Form.list Task.ofJson) fields)

end Placeholders

end Coursework
