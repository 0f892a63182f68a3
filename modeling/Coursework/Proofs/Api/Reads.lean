import Mathlib.Data.List.Forall2
import Coursework.Proofs.Api.Run

/-! # What is read is what was reported

Whatever was served before, a list of assignments shows exactly those that were reported for the
classroom, in the order in which they were added, each as it was shown then but for its status,
which follows the approvals that were reported. A classroom is shown as it was when it was added.

* **`Continues`** compares an assignment that is listed with what was shown of it.
* **`Reads`** is what holds of the responses, **`reads_of_run`** the statement. -/

namespace Coursework.Api

open Remote (Educator)

/-! ## (1) What is shown can be written -/

/-- A status has no part in whether a row can be written. -/
theorem isPlain_shownAssignment_withStatus (row : Assignment) (status : Status) :
    (shownAssignment { row with status }).isPlain = (shownAssignment row).isPlain := by
  have plain (status : Status) : status.name.hasSurrogate = false := by cases status <;> decide
  simp [shownAssignment, Json.isPlain_finite, Json.havePlain, Assignment.shownColumns, plain]

/-- The rows of a store can be written. -/
structure Writable (store : Store) : Prop where
  /-- The classrooms. -/
  classrooms : ∀ classroom ∈ store.classrooms, (shownClassroom classroom).isPlain = true
  /-- The assignments. -/
  assignments : ∀ row ∈ store.assignments, (shownAssignment row).isPlain = true

/-- What was shown when an assignment was added can be written, and so can its row. -/
theorem isPlain_of_createdResponse {row : Assignment} {noticed : List Diagnostic}
    (written : ∃ content, (createdResponse row noticed).content = .json content ∧
      checkWritable content = .ok ()) : (shownAssignment row).isPlain = true := by
  obtain ⟨content, same, writable⟩ := written
  obtain rfl := Web.Content.json.inj same
  have plain := (checkWritable_eq_ok_iff.mp writable).2
  simp only [Json.isPlain_object, Json.havePlain, Bool.and_eq_true] at plain
  exact plain.2.1.2

/-- Rows can be written behind every request if they could before. -/
theorem writable_step {request : Web.Request} {world after : World} {reported : Option Event}
    (reachable : Reachable world.store) (writable : Writable world.store)
    (step : Step request world after reported) : Writable after.store := by
  cases step with
  | nothing same =>
      rw [same]
      exact writable
  | @classroom form gives added =>
      rw [added]
      refine ⟨?_, writable.assignments⟩
      rw [Store.classrooms_addClassroom _ _ rfl]
      simp only [List.forall_mem_append, List.forall_mem_singleton]
      refine ⟨writable.classrooms, ?_⟩
      have students := hasSurrogate_students gives
      have marked : timeMark.hasSurrogate = false := by decide
      simp +decide [shownClassroom, Json.havePlain, Classroom.readers, Json.isPlain_texts,
        hasSurrogate_name gives, marked]
      exact students
  | assignment hasToken hosts answers course fit calls added =>
      rw [added]
      refine ⟨writable.classrooms, ?_⟩
      rw [Store.assignments_addAssignment _ _ rfl]
      simp only [List.forall_mem_append, List.forall_mem_singleton]
      exact ⟨writable.assignments, isPlain_of_createdResponse
        (checkWritable_of_hosts reachable hosts answers fit)⟩
  | approval names known marked =>
      rw [marked]
      refine ⟨writable.classrooms, ?_⟩
      rw [Store.assignments_setStatus]
      simp only [List.forall_mem_map]
      intro row member
      split
      · rw [isPlain_shownAssignment_withStatus]
        exact writable.assignments row member
      · exact writable.assignments row member

theorem writable_of_run {history : List Served} {store : Store} (run : Run history store) :
    Writable store := by
  induction run with
  | start => exact ⟨fun _ h => absurd h List.not_mem_nil, fun _ h => absurd h List.not_mem_nil⟩
  | next served run ih => exact writable_step run.reachable ih served.step

/-! ## (2) What a list shows -/

/-- An assignment is listed as it was shown when it was added, but for its status and the time of
its last change; the status is the one that the log says. -/
structure Continues (log : List Event) (shown listed : Json) : Prop where
  /-- All other fields are the same. -/
  same : ∀ name, name ≠ Text.ofString "status" → name ≠ Text.ofString "updated_at" →
    listed.get? name = shown.get? name
  /-- It is approved if an approval was reported, and pending otherwise. -/
  status : ∃ id status, numberIn? "id" listed = some id ∧
    listed.get? "status" = some (.text (Status.name status)) ∧
    (status = .approved ↔ .approval id ∈ log)

/-- An assignment comes before another one. -/
def Precedes (shown later : Json) : Prop :=
  ∃ id next, numberIn? "id" shown = some id ∧ numberIn? "id" later = some next ∧ id < next

/-- A list shows the assignments that were reported for a classroom. -/
structure Listing (log : List Event) (classroom : Int) (rows : List Json) : Prop where
  /-- They are listed in order. -/
  inOrder : List.Forall₂ (Continues log)
    ((assignmentsIn log).filter (numberIn? "classroom_id" · = some classroom)) rows
  /-- None is listed twice. -/
  once : rows.Pairwise Precedes
  /-- The list can be written. -/
  written : checkWritable (.list rows) = .ok ()

theorem get?_shownAssignment_unapproved (row : Assignment) {name : Text}
    (other : name ≠ Text.ofString "status") :
    (shownAssignment row).get? name = (shownAssignment (unapproved row)).get? name := by
  have last : ¬(Text.ofString "status" = name) := fun same => other same.symm
  simp [shownAssignment, unapproved, Json.finite, Json.finiteFields, Json.get?, Json.fieldIn?,
    Assignment.shownColumns, last]

theorem numberIn?_classroom_shownAssignment (row : Assignment) :
    numberIn? "classroom_id" (shownAssignment row) = some row.classroom := rfl

section Kept

variable {log : List Event} {store : Store}

/-- A row continues what was shown of it. -/
theorem Kept.continues (kept : Kept log store) {row : Assignment}
    (member : row ∈ store.assignments) :
    Continues log (shownAssignment (unapproved row)) (shownAssignment row) where
  same _ other _ := get?_shownAssignment_unapproved row other
  status := ⟨row.id, row.status, rfl, rfl, kept.approved row member⟩

/-- The rows of a classroom are listed as the log says. -/
theorem Kept.listing (kept : Kept log store) (writable : Writable store) (classroom : Int) :
    Listing log classroom ((store.assignmentsOf classroom).map shownAssignment) where
  inOrder := by
    have own : ((fun shown => decide (numberIn? "classroom_id" shown = some classroom)) ∘
        shownAssignment ∘ unapproved) = fun row : Assignment => row.classroom = classroom := by
      funext row
      simp [numberIn?_classroom_shownAssignment, unapproved]
    rw [kept.assignments, List.filter_map, own, List.forall₂_map_left_iff,
      List.forall₂_map_right_iff]
    exact List.forall₂_same.mpr fun row member => kept.continues (List.mem_of_mem_filter member)
  once := by
    refine List.pairwise_map.mpr ((kept.ascending.assignments.filter _).imp fun below => ?_)
    exact ⟨_, _, rfl, rfl, below⟩
  written := by
    refine checkWritable_eq_ok_iff.mpr ⟨?_, ?_⟩
    · rw [Json.isFinite, Json.areFinite_eq_true_iff, List.forall_mem_map]
      exact fun row _ => Json.isFinite_finite _
    · rw [Json.isPlain_list, Json.arePlain_eq_true_iff, List.forall_mem_map]
      exact fun row member => writable.assignments row (List.mem_of_mem_filter member)

end Kept

/-! ## (3) The services -/

section Services

variable {world after : World} {result : Except Stop Web.Response} {number : Int}

/-- A number that fits is answered with the list, also if there is no such classroom. -/
theorem ends_listAssignments (fits : Form.fitsWord number = true)
    (ends : Ends (listAssignments number) world result after) :
    result = .ok { status := 200, content := .json (.list
      ((world.store.assignmentsOf number).map shownAssignment)) } := by
  have found : Ends (Work.look (Store.findAssignmentsOf · number)) world
      (.ok (world.store.assignmentsOf number)) world := by
    rw [Work.ends_look_iff, Store.findAssignmentsOf_eq_ok_iff.mpr ⟨fits, rfl⟩]
    exact ⟨rfl, rfl⟩
  rw [listAssignments, found.bind_iff] at ends
  exact (ends_pure_iff.mp ends).1

/-- A number of more than 64 bits makes the look-up fail. -/
theorem ends_listAssignments_wide (wide : Form.fitsWord number = false)
    (ends : Ends (listAssignments number) world result after) :
    result = .error (.failed (.storage .wideNumber)) := by
  have failed : Ends (Work.look (Store.findAssignmentsOf · number)) world
      (.error (.failed (.storage .wideNumber))) world := by
    rw [Work.ends_look_iff, Store.findAssignmentsOf, Store.checkNumber, wide]
    exact ⟨rfl, rfl⟩
  exact (ends.unique failed.bind_error).1

/-- A classroom is shown if there is one. -/
theorem ends_showClassroom (ends : Ends (showClassroom number) world result after) :
    (∃ classroom, world.store.findClassroom number = .ok (some classroom) ∧
      result = .ok { status := 200, content := .json (shownClassroom classroom) }) ∨
      (∀ classroom, world.store.findClassroom number ≠ .ok (some classroom)) ∧
        ∃ reason, result = .error reason := by
  rcases Work.ends_find ends with ⟨classroom, found, ends⟩ | ⟨unfound, stopped, -⟩
  · exact .inl ⟨classroom, found, (ends_pure_iff.mp ends).1⟩
  · exact .inr ⟨unfound, stopped⟩

end Services

/-! ## (4) Reading behind a run -/

/-- What the responses to requests that read say behind a log. -/
structure Reads (log : List Event) (request : Web.Request) (response : Web.Response) : Prop where
  /-- The assignments of a classroom are listed as the log says. -/
  lists : ∀ number, Names request .listAssignments number → Form.fitsWord number = true →
    response.status = 200 ∧ ∃ rows, response.content = .json (.list rows) ∧
      Listing log number rows
  /-- A number of more than 64 bits is an error of the server. -/
  wide : ∀ number, Names request .listAssignments number → Form.fitsWord number = false →
    response.status = 500
  /-- A classroom is shown exactly as it was when it was added. -/
  shows : ∀ number, Names request .showClassroom number → ∀ shown,
    (response.status = 200 ∧ response.content = .json shown) ↔
      shown ∈ classroomsIn log ∧ numberIn? "id" shown = some number ∧
        Form.fitsWord number = true

/-- Behind every run from the empty store, what is read is what was reported: a list shows exactly
the assignments that were reported for its classroom, and a classroom is shown as it was when it
was added. -/
theorem reads_of_run {history : List Served} (served : Served) {educator : Educator}
    (run : Run history served.world.store)
    (admits : Admits served.world served.request educator) :
    Reads (events history) served.request served.response := by
  have kept := kept_of_run run
  constructor
  case lists =>
    intro number names fits
    obtain ⟨result, ends, concluded⟩ := ends_of_names (fun _ => rfl) admits names
    rw [Served.response, concluded, ends_listAssignments fits ends]
    exact ⟨rfl, _, rfl, kept.listing (writable_of_run run) number⟩
  case wide =>
    intro number names wide
    obtain ⟨result, ends, concluded⟩ := ends_of_names (fun _ => rfl) admits names
    rw [Served.response, concluded, ends_listAssignments_wide wide ends]
    exact status_failureResponse _
  case shows =>
    intro number names shown
    obtain ⟨result, ends, concluded⟩ := ends_of_names (fun _ => rfl) admits names
    rw [Served.response, concluded, kept.classrooms, List.mem_map]
    rcases ends_showClassroom ends with ⟨classroom, found, rfl⟩ | ⟨unfound, reason, rfl⟩
    · obtain ⟨fits, found⟩ := Store.findClassroom_eq_ok_iff.mp found
      obtain ⟨member, rfl⟩ := kept.ascending.classroom?_iff.mp found
      constructor
      · rintro ⟨-, same⟩
        obtain rfl := Web.Content.json.inj same
        exact ⟨⟨classroom, member, rfl⟩, rfl, fits⟩
      · rintro ⟨⟨other, there, rfl⟩, same, -⟩
        have again := kept.ascending.classroom?_iff.mpr ⟨there, Option.some.inj same⟩
        obtain rfl := Option.some.inj (found.symm.trans again)
        exact ⟨rfl, rfl⟩
    · constructor
      · rintro ⟨success, -⟩
        have stopped := le_status_conclude_error served.request reason
        omega
      · rintro ⟨⟨classroom, there, rfl⟩, same, fits⟩
        have found := kept.ascending.classroom?_iff.mpr ⟨there, Option.some.inj same⟩
        exact absurd (Store.findClassroom_eq_ok_iff.mpr ⟨fits, found⟩) (unfound classroom)

/-- The request for the assignments of the classroom of a number, given in digits. -/
def listRequest (digits : Text) : Web.Request where
  method := "GET"
  target := ("/api/assignments/classroom/" : Text) ++ digits
  fields := [("authorization", "Bearer t")]

/-- The list behind the run of the sample. -/
theorem reads_of_run_sample :
    ∃ store, Run sampleHistory store ∧ store.assignments.map Assignment.id = [1] ∧
      let served : Served := ⟨listRequest "1", { sampleWorld with store }⟩
      Admits served.world served.request ⟨"e@b.co", "t"⟩ ∧
        Names served.request .listAssignments 1 ∧
        Reads (events sampleHistory) served.request served.response := by
  obtain ⟨store, stored⟩ : ∃ store, store = (answer sampleRequest sampleWorld).2.store :=
    ⟨_, rfl⟩
  have run : Run sampleHistory store := stored ▸ run_sampleHistory
  have admits : Admits { sampleWorld with store } (listRequest "1") ⟨"e@b.co", "t"⟩ :=
    admits_sample (by decide +kernel) rfl
  have names : Names (listRequest "1") .listAssignments 1 :=
    ⟨["1"], by decide +kernel, by rfl⟩
  exact ⟨store, run, stored ▸ map_id_sampleHistory, admits, names,
    reads_of_run ⟨listRequest "1", { sampleWorld with store }⟩ run admits⟩

/-- Not every number is answered with a list. -/
theorem not_lists_wide :
    ¬∀ (history : List Served) (served : Served) (educator : Educator) (number : Int),
      Run history served.world.store → Admits served.world served.request educator →
      Names served.request .listAssignments number →
      served.response.status = 200 ∧ ∃ rows, served.response.content = .json (.list rows) ∧
        Listing (events history) number rows := by
  intro always
  let served : Served :=
    ⟨listRequest "9223372036854775808", { sampleWorld with store := {} }⟩
  have listed := (always [] served _ 9223372036854775808 .start
    (admits_sample (by decide +kernel) rfl)
    ⟨["9223372036854775808"], by decide +kernel, by decide +kernel⟩).1
  have failed : served.response.status = 500 := by decide +kernel
  omega

end Coursework.Api
