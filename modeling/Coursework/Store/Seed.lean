import Coursework.Store.Access

/-! # Rows from columns

A row can be put into the store column by column. A column that is not given has a value of its
own if there is one; one that is given as null is not given, unless it holds a list.

* **`Store.seedClassroom`** and **`Store.seedAssignment`** add a row and give it.

A program fills a store in this way before it serves requests. No request reaches this module, so
nothing is proved of it. -/

namespace Coursework.Store

/-- The columns of a row. -/
abbrev Columns := List (Text × Json)

/-- The columns of classrooms. -/
def classroomColumns : List Text := ["id", "name", "students", "created_at", "assignments"]

/-- The columns of assignments. -/
def assignmentColumns : List Text :=
  ["id", "title", "subject", "classroom_id", "deadline", "tasks", "total_marks_weightage",
    "evaluation_criteria", "number_of_tasks", "language", "additional_instructions", "content",
    "doc_id", "doc_link", "student_emails", "created_by", "status", "created_at", "updated_at",
    "classroom"]

/-- Refuses columns that a table does not have. -/
def checkColumns (table : Table) (known : List Text) (columns : Columns) : Outcome Unit :=
  match columns.find? fun column => !known.contains column.1 with
  | some (name, _) => .error (.storage (.unknownColumn table name))
  | none => .ok ()

/-- A column that holds a text. -/
def textColumn? (columns : Columns) (name : Text) : Option Text :=
  match Json.fieldIn? name columns with
  | none | some .null => none
  | some value => some value.display

/-- A column that holds a number. -/
def numberColumn? (columns : Columns) (name : Text) : Outcome (Option Int) :=
  match Json.fieldIn? name columns with
  | some (.int value) => (checkNumber value).map fun () => some value
  | some (.bool value) => .ok (some (if value then 1 else 0))
  | _ => .ok none

/-- A column that holds texts; null is no list. -/
def textsColumn (columns : Columns) (name : Text) : Option (List Text) :=
  match Json.fieldIn? name columns with
  | none => some []
  | some value => value.toList?.map fun items => items.filterMap Json.toText?

/-- A value that a row needs. -/
def needed {α : Type} (table : Table) (name : Text) : Option α → Outcome α
  | some value => .ok value
  | none => .error (.storage (.noValue table name))

/-- The value of a column that has one of its own when it is not given, and needs one when it is
given as null. -/
def neededText (columns : Columns) (name default : Text) : Outcome Text :=
  match Json.fieldIn? name columns with
  | none => .ok default
  | some _ => needed .assignments name (textColumn? columns name)

/-- The number of a column that has one of its own when it is not given, and needs one when it is
given as null. -/
def neededNumber (columns : Columns) (name : Text) (default : Int) : Outcome Int :=
  match Json.fieldIn? name columns with
  | none => .ok default
  | some _ => do needed .assignments name (← numberColumn? columns name)

/-- Refuses a number that is in use. -/
def checkFree (table : Table) (used : List Int) (id : Int) : Outcome Unit :=
  if used.contains id then .error (.storage (.takenNumber table)) else .ok ()

/-- Adds a classroom. -/
def seedClassroom (store : Store) (columns : Columns) : Outcome (Classroom × Store) := do
  checkColumns .classrooms classroomColumns columns
  let id ← numberColumn? columns "id"
  checkTexts (textColumn? columns "name").toList
  let name ← needed .classrooms "name" (textColumn? columns "name")
  let id := id.getD store.nextClassroom
  checkFree .classrooms (store.classrooms.map Classroom.id) id
  let classroom : Classroom := { id, name, students := textsColumn columns "students" }
  return (classroom, store.addClassroom classroom)

/-- Adds an assignment. -/
def seedAssignment (store : Store) (columns : Columns) : Outcome (Assignment × Store) := do
  checkColumns .assignments assignmentColumns columns
  let id ← numberColumn? columns "id"
  let title ← neededText columns "title" "T"
  let subject ← neededText columns "subject" "S"
  let classroom ← neededNumber columns "classroom_id" 1
  let deadline ← neededText columns "deadline" "D"
  let taskCount ← neededNumber columns "number_of_tasks" 0
  let content ← neededText columns "content" "C"
  let creator ← neededText columns "created_by" "prof@school.edu"
  let assignment : Assignment := {
    id := id.getD store.nextAssignment
    title, subject, classroom, deadline, taskCount, content, creator
    tasks := ((Json.fieldIn? "tasks" columns).bind Json.toList?).getD []
    totalMarks := textColumn? columns "total_marks_weightage"
    criteria := textColumn? columns "evaluation_criteria"
    language := (textColumn? columns "language").getD "English"
    instructions := (textColumn? columns "additional_instructions").getD "None"
    document := textColumn? columns "doc_id"
    link := textColumn? columns "doc_link"
    students := (textsColumn columns "student_emails").getD []
    status := ((textColumn? columns "status").bind Status.ofName?).getD .pending }
  checkTexts assignment.texts
  checkFree .assignments (store.assignments.map Assignment.id) assignment.id
  return (assignment, store.addAssignment assignment)

end Coursework.Store
