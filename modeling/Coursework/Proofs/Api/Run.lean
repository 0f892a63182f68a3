import Coursework.Proofs.Api.Atomicity

/-! # Runs

A run serves one request after another, each in a world of its own that has the store which the
requests before have left. What the responses report is a log that only grows, and the store is
what the log says: the classrooms and assignments that were reported, in this order, each
assignment pending until its approval is reported.

* **`Run`** is a run from the empty store, **`events`** its log.
* **`Kept`** says that a store is what a log says; **`Kept.step`** is one request, and
  **`kept_of_run`** the run. -/

namespace Coursework.Api

open Remote (Educator Link)

/-! ## (1) Runs and their logs -/

/-- A request with the world in which it is served. -/
structure Served where
  /-- The request. -/
  request : Web.Request
  /-- The world, with whatever those outside will answer. -/
  world : World

namespace Served

/-- The response. -/
def response (served : Served) : Web.Response := (answer served.request served.world).1

/-- The world afterwards. -/
def after (served : Served) : World := (answer served.request served.world).2

/-- What was asked of those outside in between. -/
def calls (served : Served) : List Call := served.after.log.drop served.world.log.length

/-- What is reported. -/
def event? (served : Served) : Option Event := Api.event? served.request served.response

theorem step (served : Served) :
    Step served.request served.world served.after served.event? :=
  step_answer served.request served.world

end Served

/-- A run from the empty store: what was served, in order, and the store that is left. -/
inductive Run : List Served → Store → Prop
  /-- Nothing was served. -/
  | start : Run [] {}
  /-- One more request is served, with the store that is left and anything outside. -/
  | next {history : List Served} (served : Served) (run : Run history served.world.store) :
    Run (history ++ [served]) served.after.store

/-- A run goes on with any request in any world that has its store. -/
theorem Run.serve {history : List Served} (world : World) (run : Run history world.store)
    (request : Web.Request) :
    Run (history ++ [⟨request, world⟩]) (answer request world).2.store :=
  run.next ⟨request, world⟩

/-- Runs lead to the stores that requests lead to. -/
theorem Run.reachable {history : List Served} {store : Store} (run : Run history store) :
    Reachable store := by
  induction run with
  | start => exact .empty
  | next served _ ih => exact .answer served.request served.world ih

/-- The log of a run: what was reported, in order. -/
def events (history : List Served) : List Event := history.filterMap Served.event?

theorem events_append_singleton (history : List Served) (served : Served) :
    events (history ++ [served]) = events history ++ served.event?.toList := by
  rw [events, List.filterMap_append, List.filterMap_cons]
  cases served.event? <;> rfl

/-! ## (2) What a log says -/

/-- What is shown of a classroom that was added. -/
def Event.classroom? : Event → Option Json
  | .classroom shown => some shown
  | .assignment _ | .approval _ => none

/-- What is shown of an assignment that was added. -/
def Event.assignment? : Event → Option Json
  | .assignment shown => some shown
  | .classroom _ | .approval _ => none

/-- The classrooms of a log, as they were shown. -/
def classroomsIn (log : List Event) : List Json := log.filterMap Event.classroom?

/-- The assignments of a log, as they were shown. -/
def assignmentsIn (log : List Event) : List Json := log.filterMap Event.assignment?

/-- The whole number in a field of what is shown. -/
def numberIn? (name : Text) (shown : Json) : Option Int :=
  match shown.get? name with
  | some (.int number) => some number
  | _ => none

@[simp] theorem classroomsIn_append (log more : List Event) :
    classroomsIn (log ++ more) = classroomsIn log ++ classroomsIn more :=
  List.filterMap_append

@[simp] theorem assignmentsIn_append (log more : List Event) :
    assignmentsIn (log ++ more) = assignmentsIn log ++ assignmentsIn more :=
  List.filterMap_append

/-- An assignment before its approval. -/
def unapproved (row : Assignment) : Assignment := { row with status := .pending }

/-- A store is what a log says. -/
structure Kept (log : List Event) (store : Store) : Prop where
  /-- The numbers ascend. -/
  ascending : store.Ascending
  /-- The classrooms are those of the log. -/
  classrooms : classroomsIn log = store.classrooms.map shownClassroom
  /-- The assignments are those of the log. -/
  assignments : assignmentsIn log = store.assignments.map (shownAssignment ∘ unapproved)
  /-- An assignment is approved if the log says so, and is pending otherwise. -/
  approved : ∀ row ∈ store.assignments, row.status = .approved ↔ .approval row.id ∈ log
  /-- Only an assignment that is there is said to be approved. -/
  known : ∀ id, .approval id ∈ log → id ∈ store.assignments.map Assignment.id

theorem kept_empty : Kept [] {} where
  ascending := Store.ascending_empty
  classrooms := rfl
  assignments := rfl
  approved _ member := absurd member List.not_mem_nil
  known _ member := absurd member List.not_mem_nil

/-! ## (3) The store of a run -/

namespace Kept

variable {log : List Event} {store : Store}

/-- A classroom that is added is added to the log. -/
theorem addClassroom (kept : Kept log store) {classroom : Classroom}
    (next : classroom.id = store.nextClassroom) :
    Kept (log ++ [.classroom (shownClassroom classroom)]) (store.addClassroom classroom) where
  ascending := kept.ascending.addClassroom next
  classrooms := by
    rw [classroomsIn_append, kept.classrooms, Store.classrooms_addClassroom _ _ next,
      List.map_append]
    rfl
  assignments := by
    rw [assignmentsIn_append, kept.assignments]
    exact List.append_nil _
  approved row member := by
    rw [kept.approved row member]
    simp
  known id member := kept.known id (by simpa using member)

/-- So is an assignment, which nobody can have approved before. -/
theorem addAssignment (kept : Kept log store) {assignment : Assignment}
    (next : assignment.id = store.nextAssignment) (pending : assignment.status = .pending) :
    Kept (log ++ [.assignment (shownAssignment assignment)])
      (store.addAssignment assignment) where
  ascending := kept.ascending.addAssignment next
  classrooms := by
    rw [classroomsIn_append, kept.classrooms]
    exact List.append_nil _
  assignments := by
    have same : unapproved assignment = assignment := by
      rw [unapproved, ← pending]
    rw [assignmentsIn_append, kept.assignments, store.assignments_addAssignment assignment next,
      List.map_append, List.map_singleton, Function.comp_apply, same]
    rfl
  approved row member := by
    rw [store.assignments_addAssignment assignment next, List.mem_append,
      List.mem_singleton] at member
    rcases member with member | rfl
    · rw [kept.approved row member]
      simp
    · refine iff_of_false (by simp [pending]) fun approved => ?_
      have used := kept.known row.id (by simpa using approved)
      exact absurd (Store.lt_nextId used) (by rw [next]; exact Int.lt_irrefl _)
  known id member := by
    rw [store.assignments_addAssignment assignment next, List.map_append, List.mem_append]
    exact .inl (kept.known id (by simpa using member))

/-- An approval changes nothing but a status. -/
theorem setStatus (kept : Kept log store) {id : Int}
    (found : id ∈ store.assignments.map Assignment.id) :
    Kept (log ++ [.approval id]) (store.setStatus id .approved) where
  ascending := kept.ascending.setStatus id .approved
  classrooms := by
    rw [classroomsIn_append, kept.classrooms]
    exact List.append_nil _
  assignments := by
    rw [assignmentsIn_append, kept.assignments, Store.assignments_setStatus, List.map_map]
    refine (List.append_nil _).trans (List.map_congr_left fun row _ => ?_)
    by_cases same : row.id = id <;> simp [same, unapproved]
  approved row member := by
    rw [Store.assignments_setStatus] at member
    obtain ⟨before, own, rfl⟩ := List.mem_map.mp member
    have approved := kept.approved before own
    by_cases same : before.id = id
    · simp [same]
    · simp [same, approved]
  known other member := by
    rw [Store.map_id_setStatus]
    rcases List.mem_append.mp member with member | member
    · exact kept.known other member
    · cases List.mem_singleton.mp member
      exact found

/-- A store that is what a log says is so after every request, with what is reported added to the
log. -/
theorem step {request : Web.Request} {world after : World} {reported : Option Event}
    (kept : Kept log world.store) (step : Step request world after reported) :
    Kept (log ++ reported.toList) after.store := by
  cases step with
  | nothing same =>
      rw [same, Option.toList_none, List.append_nil]
      exact kept
  | classroom gives added =>
      rw [added]
      exact kept.addClassroom rfl
  | assignment hasToken hosts answers course fit calls added =>
      rw [added]
      exact kept.addAssignment rfl rfl
  | approval names known marked =>
      rw [marked]
      exact kept.setStatus known

end Kept

/-- The store of a run is what its log says. -/
theorem kept_of_run {history : List Served} {store : Store} (run : Run history store) :
    Kept (events history) store := by
  induction run with
  | start => exact kept_empty
  | next served _ ih =>
      rw [events_append_singleton]
      exact ih.step served.step

/-! ## (4) An example -/

/-- The requests for a classroom and for an assignment in it. -/
def sampleHistory : List Served :=
  [⟨classroomRequest, { sampleWorld with store := {} }⟩, ⟨sampleRequest, sampleWorld⟩]

/-- They are a run. -/
theorem run_sampleHistory :
    Run sampleHistory (answer sampleRequest sampleWorld).2.store := by
  have first := Run.serve { sampleWorld with store := {} } Run.start classroomRequest
  rw [store_classroomRequest] at first
  exact Run.serve sampleWorld first sampleRequest

/-- They leave one assignment. -/
theorem map_id_sampleHistory :
    (answer sampleRequest sampleWorld).2.store.assignments.map Assignment.id = [1] := by
  decide +kernel

end Coursework.Api
