import Coursework.Api.Body
import Coursework.Form.Mailbox

/-! # Services for classrooms

* **`Api.createClassroom`** adds a classroom, **`Api.showClassroom`** shows one. -/

namespace Coursework.Api

/-- Times are not kept: each is shown as this mark. -/
def timeMark : Text := "<time>"

/-- What an educator says of a new classroom. -/
structure ClassroomForm where
  /-- Its name. -/
  name : Text
  /-- The addresses of its students. -/
  students : List Text
  deriving DecidableEq, Repr

/-- The form of a new classroom. -/
def ClassroomForm.ofFields (fields : Form.Fields) : Checked ClassroomForm :=
  ((Checked.start ClassroomForm.mk).also
    (Form.required ["name"] (Form.textOfLength 1 255) fields)).also
    (Form.withDefault [] ["students"] (Form.list Form.mailbox) fields)

/-- A classroom as it is shown to educators. -/
def shownClassroom (classroom : Classroom) : Json :=
  .object [("id", .int classroom.id), ("name", .text classroom.name),
    ("students", Json.texts classroom.readers), ("created_at", .text timeMark)]

/-- Adds a classroom. -/
def createClassroom (form : ClassroomForm) : Work Web.Response := do
  let classroom : Classroom := {
    id := (← get).store.nextClassroom, name := form.name, students := some form.students }
  Work.change (Store.addClassroom · classroom)
  return { status := 201, content := .json (shownClassroom classroom) }

/-- Shows a classroom. -/
def showClassroom (id : Int) : Work Web.Response := do
  let classroom ← Work.orRefuse (← Work.look (Store.findClassroom · id)) .noClassroom
  return { status := 200, content := .json (shownClassroom classroom) }

end Coursework.Api
