import Coursework.Assignment.Record

/-! # Briefs

A brief is what an educator asks for: an assignment on a subject for a classroom, with as much
said about it as the educator likes.

* **`Brief`** is the type; **`Brief.ofFields`** and **`Brief.ofJson`** read one, **`Brief.toJson`**
  writes it. -/

namespace Coursework

open Form Checked

/-- A number of tasks that is asked for, in digits or in words. -/
inductive TaskCount
  /-- A text. -/
  | text (value : Text)
  /-- A number. -/
  | int (value : Int)
  deriving DecidableEq, Repr

namespace TaskCount

/-- The number of tasks as a value. -/
def toJson : TaskCount → Json
  | text value => .text value
  | int value => .int value

/-- A number of tasks from a value: a text, or what a whole number may be given as. -/
def ofJson : Json → Checked TaskCount
  | .text value => .ok (text value)
  | value =>
    match integer value with
    | .ok number => .ok (int number)
    | .error issues =>
      .error (⟨.notText, [.field "str"]⟩ :: issues.map (Issue.within (.field "int")))

end TaskCount

/-- What an educator asks for. -/
structure Brief where
  /-- The title. -/
  title : Text
  /-- The subject. -/
  subject : Text
  /-- The classroom. -/
  classroom : Int
  /-- The deadline. -/
  deadline : Text
  /-- The marks of the whole assignment. -/
  totalMarks : Option Marks := none
  /-- What the marks are given for. -/
  criteria : Option Text := none
  /-- The number of tasks. -/
  taskCount : Option TaskCount := none
  /-- The language. -/
  language : Option Text := none
  /-- Further instructions. -/
  instructions : Option Text := none
  /-- The grade of the students. -/
  grade : Option Text := none
  /-- How difficult it should be. -/
  difficulty : Option Text := none
  /-- How detailed it should be. -/
  detail : Option Text := none
  deriving DecidableEq, Repr

namespace Brief

/-- A field that may be left out or null. -/
def optionalField {α : Type} (names : List Text) (check : Json → Checked α) (fields : Fields) :
    Checked (Option α) :=
  withDefault none names (Form.optional check) fields

/-- A brief from the fields of an object. -/
def ofFields (fields : Fields) : Checked Brief :=
  (start Brief.mk)
    |>.also (required ["title"] Form.text fields)
    |>.also (required ["subject"] Form.text fields)
    |>.also (required ["classroomId", "classroom_id"] integer fields)
    |>.also (required ["deadline"] Form.text fields)
    |>.also (optionalField ["totalMarksWeightage", "total_marks_weightage"] Marks.ofJson fields)
    |>.also (optionalField ["evaluationCriteria", "evaluation_criteria"] Form.text fields)
    |>.also (optionalField ["numberOfTasks", "number_of_tasks"] TaskCount.ofJson fields)
    |>.also (optionalField ["language"] Form.text fields)
    |>.also (optionalField ["additionalInstructions", "additional_instructions"] Form.text fields)
    |>.also (optionalField ["gradeLevel", "grade_level"] Form.text fields)
    |>.also (optionalField ["difficultyLevel", "difficulty_level"] Form.text fields)
    |>.also (optionalField ["detailLevel", "detail_level"] Form.text fields)

/-- A brief from an object. -/
def ofJson : Json → Checked Brief := describing "AssignmentRequest" ofFields

/-- A brief as an object. -/
def toJson (brief : Brief) : Json :=
  .object [("title", .text brief.title), ("subject", .text brief.subject),
    ("classroomId", .int brief.classroom), ("deadline", .text brief.deadline),
    ("totalMarksWeightage", (brief.totalMarks.map Marks.toJson).getD .null),
    ("evaluationCriteria", Json.textOrNull brief.criteria),
    ("numberOfTasks", (brief.taskCount.map TaskCount.toJson).getD .null),
    ("language", Json.textOrNull brief.language),
    ("additionalInstructions", Json.textOrNull brief.instructions),
    ("gradeLevel", Json.textOrNull brief.grade),
    ("difficultyLevel", Json.textOrNull brief.difficulty),
    ("detailLevel", Json.textOrNull brief.detail)]

end Brief

end Coursework
