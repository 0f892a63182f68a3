import Coursework.Json.Basic

/-! # Classrooms and assignments as they are kept

A classroom has a name and students; an assignment belongs to a classroom, has been published as
a document and shared with the students of that time, and is pending until it is approved.

* **`Classroom`** and **`Assignment`** are the rows; `toJson` shows all columns, `display` names a
  row.
* **`Status`** is pending or approved. -/

namespace Coursework

/-! ## (1) Status -/

/-- How far an assignment has come. -/
inductive Status
  /-- It waits for approval. -/
  | pending
  /-- It was approved, and the students were told. -/
  | approved
  deriving DecidableEq, Repr

namespace Status

/-- The word for a status. -/
def name : Status → Text
  | pending => "pending"
  | approved => "approved"

/-- The status of a word. -/
def ofName? (word : Text) : Option Status :=
  if word = pending.name then some pending
  else if word = approved.name then some approved
  else none

/-- A status is read back from its word. -/
theorem ofName?_name (status : Status) : ofName? status.name = some status := by
  cases status <;> decide

end Status

/-! ## (2) Rows -/

/-- A classroom. -/
structure Classroom where
  /-- Its number. -/
  id : Int
  /-- Its name. -/
  name : Text
  /-- The addresses of its students, in order; there may be no list at all. -/
  students : Option (List Text) := some []
  deriving DecidableEq, Repr

namespace Classroom

/-- The students, none if there is no list. -/
def readers (classroom : Classroom) : List Text := classroom.students.getD []

/-- The columns of a classroom. -/
def toJson (classroom : Classroom) : Json :=
  .object [("id", .int classroom.id), ("name", .text classroom.name),
    ("students", (classroom.students.map Json.texts).getD .null)]

/-- A short form that names a classroom. -/
def display (classroom : Classroom) : Text :=
  ("<Classroom(id=" : Text) ++ Text.ofInt classroom.id ++ ", name='" ++ classroom.name ++ "')>"

end Classroom

/-- An assignment that was published. -/
structure Assignment where
  /-- Its number. -/
  id : Int
  /-- Its title. -/
  title : Text
  /-- Its subject. -/
  subject : Text
  /-- The number of its classroom. -/
  classroom : Int
  /-- Its deadline. -/
  deadline : Text
  /-- Its tasks, as objects. -/
  tasks : List Json := []
  /-- The marks of the whole. -/
  totalMarks : Option Text := none
  /-- What the marks are given for. -/
  criteria : Option Text := none
  /-- The number of its tasks. -/
  taskCount : Int
  /-- Its language. -/
  language : Text := "English"
  /-- Further instructions. -/
  instructions : Text := "None"
  /-- The markdown of its document. -/
  content : Text
  /-- The identity of its document. -/
  document : Option Text := none
  /-- Where its document is read. -/
  link : Option Text := none
  /-- The addresses that its document was shared with, in order. -/
  students : List Text := []
  /-- The address of the educator who had it made. -/
  creator : Text
  /-- How far it has come. -/
  status : Status := .pending
  deriving Repr

namespace Assignment

/-- The columns that are shown to educators, but for the times. -/
def shownColumns (assignment : Assignment) : List (Text × Json) :=
  [("id", .int assignment.id), ("title", .text assignment.title),
    ("subject", .text assignment.subject), ("classroom_id", .int assignment.classroom),
    ("deadline", .text assignment.deadline), ("tasks", .list assignment.tasks),
    ("total_marks_weightage", Json.textOrNull assignment.totalMarks),
    ("evaluation_criteria", Json.textOrNull assignment.criteria),
    ("number_of_tasks", .int assignment.taskCount), ("language", .text assignment.language),
    ("additional_instructions", .text assignment.instructions),
    ("content", .text assignment.content), ("doc_link", Json.textOrNull assignment.link),
    ("student_emails", Json.texts assignment.students),
    ("created_by", .text assignment.creator), ("status", .text assignment.status.name)]

/-- The columns of an assignment. -/
def toJson (assignment : Assignment) : Json :=
  .object (("doc_id", Json.textOrNull assignment.document) :: assignment.shownColumns)

/-- A short form that names an assignment. -/
def display (assignment : Assignment) : Text :=
  ("<Assignment(id=" : Text) ++ Text.ofInt assignment.id ++ ", title='" ++ assignment.title ++
    "', status='" ++ assignment.status.name ++ "')>"

/-- The texts of an assignment in the order in which they are stored. -/
def texts (assignment : Assignment) : List Text :=
  [assignment.title, assignment.subject, assignment.deadline] ++ assignment.totalMarks.toList ++
    assignment.criteria.toList ++
    [assignment.language, assignment.instructions, assignment.content] ++
    assignment.document.toList ++ assignment.link.toList ++ [assignment.creator]

end Assignment

end Coursework
