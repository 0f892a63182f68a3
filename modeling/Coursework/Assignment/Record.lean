import Coursework.Form.Scalar
import Coursework.Form.Fields

/-! # Assignments

An assignment has a title, a deadline, marks, criteria and tasks, each task with its own marks.
Marks are given as a text or as a number and keep the form in which they were given.

* **`Marks`**, **`Task`** and **`Record`** are the types; `ofJson` and `toJson` read and write
  them.
* **`Record.Complete`** holds when the number of tasks is that of the tasks listed. -/

namespace Coursework

open Form Checked

/-! ## (1) Marks -/

/-- Marks, as a text or a number. -/
inductive Marks
  /-- A text. -/
  | text (value : Text)
  /-- A whole number. -/
  | int (value : Int)
  /-- Any other number. -/
  | float (value : Binary64)
  deriving DecidableEq, Repr

namespace Marks

/-- Marks as a value. -/
def toJson : Marks → Json
  | text value => .text value
  | int value => .int value
  | float value => .float value

/-- Marks from a value: a truth value counts as the number that it stands for. -/
def ofJson : Json → Checked Marks
  | .text value => .ok (text value)
  | .int value => .ok (int value)
  | .float value => .ok (float value)
  | .bool value => .ok (int (if value then 1 else 0))
  | _ => .error [⟨.notText, [.field "str"]⟩, ⟨.notInteger, [.field "int"]⟩,
      ⟨.notNumber, [.field "float"]⟩]

/-- Marks as they are shown. -/
def display (marks : Marks) : Text := marks.toJson.display

/-- Marks read back from their own value. -/
theorem ofJson_toJson (marks : Marks) : ofJson marks.toJson = .ok marks := by
  cases marks <;> rfl

end Marks

/-! ## (2) Tasks -/

/-- A task and its marks. -/
structure Task where
  /-- What is to be done. -/
  description : Text
  /-- How much it counts. -/
  weightage : Marks
  deriving DecidableEq, Repr

namespace Task

/-- A task as an object. -/
def toJson (task : Task) : Json :=
  .object [("description", .text task.description), ("weightage", task.weightage.toJson)]

/-- A task from an object; both fields may be left out. -/
def ofJson : Json → Checked Task :=
  describing "Task" fun fields =>
    ((start Task.mk).also (withDefault [] ["description"] Form.text fields)).also
      (withDefault (.text []) ["weightage"] Marks.ofJson fields)

end Task

/-! ## (3) Records -/

/-- An assignment. -/
structure Record where
  /-- The title. -/
  title : Text
  /-- The deadline, as it was given. -/
  deadline : Text
  /-- The marks of the whole assignment. -/
  totalMarks : Marks
  /-- What the marks are given for. -/
  criteria : Text
  /-- The number of tasks. -/
  taskCount : Nat
  /-- The tasks. -/
  tasks : List Task
  /-- The language. -/
  language : Text := "English"
  /-- Further instructions. -/
  instructions : Text := "None"
  deriving DecidableEq, Repr

namespace Record

/-- The number of tasks is that of the tasks listed. -/
def Complete (record : Record) : Prop := record.tasks.length = record.taskCount

instance (record : Record) : Decidable record.Complete :=
  inferInstanceAs (Decidable (record.tasks.length = record.taskCount))

/-- An assignment as an object. -/
def toJson (record : Record) : Json :=
  .object [("title", .text record.title), ("deadline", .text record.deadline),
    ("totalMarksWeightage", record.totalMarks.toJson),
    ("evaluationCriteria", .text record.criteria), ("numberOfTasks", .int record.taskCount),
    ("tasks", .list (record.tasks.map Task.toJson)), ("language", .text record.language),
    ("additionalInstructions", .text record.instructions)]

/-- A number of tasks. -/
def count (value : Json) : Checked Nat := do
  let value ← integer value
  let value ← atLeast 0 value
  return value.toNat

/-- An assignment from an object; language and instructions may be left out. -/
def ofJson : Json → Checked Record :=
  describing "AssignmentRecord" fun fields =>
    (start Record.mk)
      |>.also (required ["title"] Form.text fields)
      |>.also (required ["deadline"] Form.text fields)
      |>.also (required ["totalMarksWeightage", "total_marks_weightage"] Marks.ofJson fields)
      |>.also (required ["evaluationCriteria", "evaluation_criteria"] Form.text fields)
      |>.also (required ["numberOfTasks", "number_of_tasks"] count fields)
      |>.also (required ["tasks"] (Form.list Task.ofJson) fields)
      |>.also (withDefault "English" ["language"] Form.text fields)
      |>.also (withDefault "None" ["additionalInstructions", "additional_instructions"]
        Form.text fields)

end Record

end Coursework
