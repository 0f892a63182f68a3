import Coursework.Api.Classrooms
import Coursework.Remote.Document
import Coursework.Remote.Mailing

/-! # Services for assignments

An assignment is generated for the brief of an educator, published as a document, shared with the
students of the classroom, and only then kept. It is approved when all students have been told.

* **`Api.createAssignment`**, **`Api.approveAssignment`** and **`Api.listAssignments`** are the
  services. -/

namespace Coursework.Api

open Remote (Educator Link)

/-! ## (1) Creating -/

/-- An assignment as it is shown to educators. -/
def shownAssignment (assignment : Assignment) : Json :=
  Json.finite (.object
    (("created_at", .text timeMark) :: ("updated_at", .text timeMark) ::
      assignment.shownColumns))

/-- The row of an assignment that was published. -/
def newAssignment (id : Int) (brief : Brief) (record : Record) (content : Text) (link : Link)
    (classroom : Classroom) (educator : Educator) : Assignment where
  id := id
  title := brief.title
  subject := brief.subject
  classroom := classroom.id
  deadline := brief.deadline
  tasks := record.tasks.map Task.toJson
  totalMarks := some record.totalMarks.display
  criteria := some record.criteria
  taskCount := record.taskCount
  language := record.language
  instructions := record.instructions
  content := content
  document := some link.identity
  link := some link.address
  students := classroom.readers
  creator := educator.email

/-- The classroom of a brief, which must have students. -/
def classroomFor (brief : Brief) : Work Classroom := do
  let classroom ← Work.orRefuse (← Work.look (Store.findClassroom · brief.classroom)) .noClassroom
  if classroom.readers.isEmpty then Work.refuse .noStudents
  return classroom

/-- Publishes a document and shares it with students. -/
def publishFor (title content : Text) (readers : List Text) (educator : Educator) :
    Work Link :=
  Work.exchange do
    let access : Remote.Access := { token := educator.token }
    let link ← Remote.publish title (.value (.text content)) access
    let _ ← Remote.share link.identity readers access
    return link

/-- The answer that shows a new assignment. -/
def createdResponse (assignment : Assignment) (noticed : List Diagnostic) : Web.Response where
  status := 201
  content := .json (.object
    [("message", .text "Assignment created successfully"),
      ("assignment", shownAssignment assignment),
      ("docLink", Json.textOrNull assignment.link),
      ("warnings", Json.texts (noticed.map Diagnostic.message))])

/-- Generates, publishes, shares and keeps an assignment. -/
def createAssignment (educator : Educator) (brief : Brief) : Work Web.Response := do
  let classroom ← classroomFor brief
  let accepted ← Work.generate brief
  let content := Outline.render Placeholders.usual accepted.record
  let link ← publishFor brief.title content classroom.readers educator
  let assignment :=
    newAssignment (← get).store.nextAssignment brief accepted.record content link classroom
      educator
  Work.ofOutcome (Store.checkTexts assignment.texts)
  Work.change (Store.addAssignment · assignment)
  return createdResponse assignment accepted.noticed

/-! ## (2) Approving -/

/-- The message to a student about an approved assignment. -/
def noticeFor (educator : Educator) (assignment : Assignment) (student : Text) : Mail.Message where
  sender := educator.email
  recipient := student
  subject := ("New Assignment Approved: " : Text) ++ assignment.title
  html := Mail.approvalNotice assignment.subject (assignment.link.getD [])

/-- Tells students one after another. -/
def tellAll (educator : Educator) (assignment : Assignment) (students : List Text) :
    Remote.Exchange Unit :=
  students.forM fun student => do
    let _ ← Remote.send (noticeFor educator assignment student) { token := educator.token }

/-- Tells all students of an assignment and marks it approved. -/
def approveAssignment (educator : Educator) (id : Int) : Work Web.Response := do
  let assignment ← Work.orRefuse (← Work.look (Store.findAssignment · id)) .noAssignment
  let classroom ← Work.orRefuse (← Work.look (Store.findClassroom · assignment.classroom))
    .nobodyToTell
  if classroom.readers.isEmpty then Work.refuse .nobodyToTell
  Work.exchange (tellAll educator assignment classroom.readers)
  Work.change (Store.setStatus · id .approved)
  return { status := 200, content := .json (.object
    [("message", .text "Assignment approved and notifications sent")]) }

/-! ## (3) Listing -/

/-- Lists the assignments of a classroom. -/
def listAssignments (classroom : Int) : Work Web.Response := do
  let assignments ← Work.look (Store.findAssignmentsOf · classroom)
  return { status := 200, content := .json (.list (assignments.map shownAssignment)) }

end Coursework.Api
