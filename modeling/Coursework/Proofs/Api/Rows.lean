import Coursework.Proofs.Api.Rejected
import Coursework.Proofs.Api.Run

/-! # Rows of assignments

Nothing in the store itself ties the columns of an assignment to each other or to its classroom.
Every row that requests lead to has as many tasks as it says, a document with its link, the
students of its classroom, and as content the document of a record that was accepted.

* **`Sound`** is what holds of one row; **`sound_newAssignment`** is a row that is added, and
  **`sound_step`** what a request leaves of the others.
* **`Rows`** is what holds of all rows of a run, **`rows_of_run`** the statement. -/

namespace Coursework

/-! ## (1) Where a link comes from -/

namespace Remote

/-- A link leads to the document that it names. -/
theorem Publication.address_of_ok {title token : Text} {content : Content}
    {exchanged : List (Request × Reply)} {link : Link} {result : Outcome Link}
    (course : Publication title content token exchanged result) (ok : result = .ok link) :
    link.address = readingAddress link.identity := by
  cases course with
  | tokenless _ => cases ok
  | uncompiled _ => cases ok
  | unnamed _ _ _ => cases ok
  | unfilled _ _ _ _ => cases ok
  | filled _ _ _ _ linked => exact (ofIdentity_eq_ok (linked.trans ok)).2

/-- An identity that is named is not empty. -/
theorem Reply.Names.ne_nil {reply : Reply} {identity part : Text}
    (named : reply.Names (.text identity) part) : identity ≠ [] := by
  obtain ⟨⟨fields, -, -, filled⟩, -⟩ := named
  rintro rfl
  cases filled

end Remote

namespace Api

open Remote (Educator Link)

/-- A document that was distributed has a name and a link to it. -/
theorem Distribution.link_of_ok {title content token : Text} {readers : List Text}
    {exchanged : List (Remote.Request × Remote.Reply)} {link : Link} {outcome : Outcome Link}
    (course : Distribution title content token readers exchanged outcome)
    (ok : outcome = .ok link) :
    link.identity ≠ [] ∧ link.address = Remote.readingAddress link.identity := by
  cases course with
  | unpublished _ => cases ok
  | unshared _ _ _ => cases ok
  | shared published _ _ =>
      obtain rfl := Except.ok.inj ok
      obtain ⟨-, _, _, _, _, _, -, named, -, -⟩ := published.of_ok rfl
      exact ⟨named.ne_nil, published.address_of_ok rfl⟩

/-! ## (2) One row -/

/-- The columns of a row fit each other and its classroom. -/
structure Sound (store : Store) (row : Assignment) : Prop where
  /-- There are as many tasks as it says. -/
  counted : row.taskCount = row.tasks.length
  /-- It is pending or approved. -/
  status : row.status.name = Text.ofString "pending" ∨ row.status.name = Text.ofString "approved"
  /-- It has a document, and the link is made of the name of that. -/
  document : ∃ identity, identity ≠ [] ∧ row.document = some identity ∧
    row.link = some (Remote.readingAddress identity)
  /-- Its classroom is found and has its students. -/
  placed : row.students ≠ [] ∧ ∃ classroom,
    store.findClassroom row.classroom = .ok (some classroom) ∧
    classroom.students = some row.students
  /-- Its content is the document of a record that was accepted, and its tasks, their number, the
  criteria and the marks are those of the record. -/
  accepted : ∃ reply accepted, Reply.validate (.text reply) = .ok accepted ∧
    row.content = Outline.render .usual accepted.record ∧
    row.tasks = accepted.record.tasks.map Task.toJson ∧
    row.taskCount = accepted.record.taskCount ∧
    row.criteria = some accepted.record.criteria ∧
    row.totalMarks = some accepted.record.totalMarks.display

/-- The classroom of a brief is found by its own number. -/
theorem Hosts.findClassroom {store : Store} {brief : Brief} {classroom : Classroom}
    (hosts : Hosts store brief classroom) (ascending : store.Ascending) :
    store.findClassroom classroom.id = .ok (some classroom) := by
  have found := Store.findClassroom_eq_ok_iff.mp hosts.1
  obtain ⟨-, same⟩ := ascending.classroom?_iff.mp found.2
  rw [same]
  exact hosts.1

/-- A row that is added is sound. -/
theorem sound_newAssignment {store : Store} {id : Int} {educator : Educator} {brief : Brief}
    {classroom : Classroom} {answer : Text} {accepted : Reply.Accepted} {link : Link}
    {exchanged : List (Remote.Request × Remote.Reply)} (ascending : store.Ascending)
    (hosts : Hosts store brief classroom) (answers : Generation.ofAnswer answer = .ok accepted)
    (course : Distribution brief.title (markdownOf accepted) educator.token classroom.readers
      exchanged (.ok link)) :
    Sound store
      (newAssignment id brief accepted.record (markdownOf accepted) link classroom educator) := by
  have valid := Generation.ofAnswer_eq_ok_iff.mp answers
  obtain ⟨_, _, _, -, assembled, -⟩ := Reply.validate_eq_ok_iff.mp valid
  obtain ⟨named, linked⟩ := course.link_of_ok rfl
  have students : classroom.students = some classroom.readers := by
    have peopled := hosts.2
    revert peopled
    rw [Classroom.readers]
    cases classroom.students with
    | none => exact fun empty => absurd rfl empty
    | some students => exact fun _ => rfl
  exact {
    counted := by
      have complete : accepted.record.tasks.length = accepted.record.taskCount :=
        assembled.complete
      simp [newAssignment, complete]
    status := .inl rfl
    document := ⟨link.identity, named, rfl, congrArg some linked⟩
    placed := ⟨hosts.2, classroom, hosts.findClassroom ascending, students⟩
    accepted := ⟨answer, accepted, valid, rfl, rfl, rfl, rfl, rfl⟩ }

namespace Sound

variable {store next : Store} {row : Assignment}

/-- A row stays sound when its classroom stays. -/
theorem of_findClassroom (sound : Sound store row)
    (kept : ∀ classroom, store.findClassroom row.classroom = .ok (some classroom) →
      next.findClassroom row.classroom = .ok (some classroom)) : Sound next row where
  counted := sound.counted
  status := sound.status
  document := sound.document
  placed := by
    obtain ⟨peopled, classroom, found, students⟩ := sound.placed
    exact ⟨peopled, classroom, kept classroom found, students⟩
  accepted := sound.accepted

/-- Those to be told about it are its students. -/
theorem exists_classroom (sound : Sound store row) :
    ∃ classroom, store.findClassroom row.classroom = .ok (some classroom) ∧
      classroom.readers = row.students := by
  obtain ⟨-, classroom, placed, students⟩ := sound.placed
  refine ⟨classroom, placed, ?_⟩
  rw [Classroom.readers, students]
  rfl

/-- Its status has no part in that. -/
theorem withStatus (sound : Sound store row) (status : Status) :
    Sound store { row with status } where
  counted := sound.counted
  status := by cases status <;> simp [Status.name]
  document := sound.document
  placed := sound.placed
  accepted := sound.accepted

end Sound

/-- Rows are sound behind every request if they were before. -/
theorem sound_step {request : Web.Request} {world after : World} {reported : Option Event}
    (ascending : world.store.Ascending) (sound : ∀ row ∈ world.store.assignments,
      Sound world.store row) (step : Step request world after reported) :
    ∀ row ∈ after.store.assignments, Sound after.store row := by
  cases step with
  | nothing same =>
      rw [same]
      exact sound
  | classroom gives added =>
      rw [added]
      intro row member
      refine (sound row member).of_findClassroom fun classroom found => ?_
      obtain ⟨fits, found⟩ := Store.findClassroom_eq_ok_iff.mp found
      obtain ⟨there, same⟩ := ascending.classroom?_iff.mp found
      refine Store.findClassroom_eq_ok_iff.mpr
        ⟨fits, (ascending.addClassroom rfl).classroom?_iff.mpr ⟨?_, same⟩⟩
      rw [Store.classrooms_addClassroom _ _ rfl]
      exact List.mem_append_left _ there
  | assignment hasToken hosts answers course fit calls added =>
      rw [added, Store.assignments_addAssignment _ _ rfl]
      simp only [List.forall_mem_append, List.forall_mem_singleton]
      constructor
      · intro row member
        exact (sound row member).of_findClassroom fun _ found => found
      · exact (sound_newAssignment ascending hosts answers course).of_findClassroom
          fun _ found => found
  | @approval id names known marked =>
      rw [marked, Store.assignments_setStatus]
      simp only [List.forall_mem_map]
      intro row member
      have kept : Sound (world.store.setStatus id .approved) row :=
        (sound row member).of_findClassroom fun _ found => found
      split
      · exact kept.withStatus .approved
      · exact kept

theorem sound_of_run {history : List Served} {store : Store} (run : Run history store) :
    ∀ row ∈ store.assignments, Sound store row := by
  induction run with
  | start => exact fun _ member => absurd member List.not_mem_nil
  | next served run ih => exact sound_step (kept_of_run run).ascending ih served.step

/-! ## (3) All rows of a run -/

/-- What holds of the rows behind a run with a log. -/
structure Rows (log : List Event) (store : Store) : Prop where
  /-- They are sound. -/
  sound : ∀ row ∈ store.assignments, Sound store row
  /-- Their numbers ascend, so that no two are the same. -/
  ascending : store.assignments.Pairwise (·.id < ·.id)
  /-- They stand in the order in which they were added. -/
  inOrder : (assignmentsIn log).map (numberIn? "id") =
    store.assignments.map fun row => some row.id

theorem numberIn?_id_shownAssignment (row : Assignment) :
    numberIn? "id" (shownAssignment row) = some row.id := rfl

/-- Behind every run from the empty store, whatever those outside answered, all rows are sound,
and their numbers ascend in the order in which the assignments were added. -/
theorem rows_of_run {history : List Served} {store : Store} (run : Run history store) :
    Rows (events history) store where
  sound := sound_of_run run
  ascending := (kept_of_run run).ascending.assignments
  inOrder := by
    rw [(kept_of_run run).assignments, List.map_map]
    exact List.map_congr_left fun row _ => numberIn?_id_shownAssignment (unapproved row)

/-- A run with one row. -/
theorem rows_of_run_sample :
    ∃ store, Run sampleHistory store ∧ store.assignments.map Assignment.id = [1] ∧
      Rows (events sampleHistory) store :=
  ⟨_, run_sampleHistory, map_id_sampleHistory, rows_of_run run_sampleHistory⟩

end Api

end Coursework
