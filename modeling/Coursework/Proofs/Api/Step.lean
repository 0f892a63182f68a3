import Coursework.Proofs.Api.Approval
import Coursework.Proofs.Store.Ascending

/-! # What a request does and reports

The response to a request reports what was done: that a classroom or an assignment was added, with
what is shown of it, or that an assignment was approved. The report is true of the store, and
nothing is done that is not reported.

* **`event?`** reads the report off the response.
* **`Step`** lists what is done to the store together with its report; **`step_answer`** shows
  that every request is such a step. -/

namespace Coursework.Api

open Remote (Attempt Educator Link exchangedIn)

/-! ## (1) Reports -/

/-- Something that was done. -/
inductive Event
  /-- A classroom was added and is shown. -/
  | classroom (shown : Json)
  /-- An assignment was added and is shown. -/
  | assignment (shown : Json)
  /-- The assignment of a number was approved. -/
  | approval (id : Int)

/-- What the response to a request reports to have been done: a classroom or an assignment with
the status 201, an approval with the status 200. -/
def event? (request : Web.Request) (response : Web.Response) : Option Event :=
  match Way.ofRequest request, response.status, response.content with
  | .service .createClassroom _, 201, .json content => some (.classroom content)
  | .service .createAssignment _, 201, .json content =>
    (content.get? "assignment").map Event.assignment
  | .service .approveAssignment parts, 200, _ =>
    (Form.readInteger (parts.headD [])).toOption.map Event.approval
  | _, _, _ => none

section Reports

variable {request : Web.Request} {response : Web.Response} {service : Service}
  {parts : List Text}

/-- Nothing is reported of a request that leads to no service. -/
theorem event?_of_astray
    (astray : ∀ service parts, Way.ofRequest request ≠ .service service parts) :
    event? request response = none := by
  rw [event?]
  split
  next way _ _ => exact absurd way (astray _ _)
  next way _ _ => exact absurd way (astray _ _)
  next way _ => exact absurd way (astray _ _)
  next => rfl

/-- Nothing is reported where work stops. -/
theorem event?_of_error (request : Web.Request) (reason : Stop) :
    event? request (conclude request (.error reason)) = none := by
  have stopped := le_status_conclude_error request reason
  rw [event?]
  split
  next created _ => omega
  next created _ => omega
  next approved => omega
  next => rfl

/-- Services that only show something report nothing. -/
theorem event?_of_shows (way : Way.ofRequest request = .service service parts)
    (shows : service = .listAssignments ∨ service = .showClassroom ∨ service = .showStatus) :
    event? request response = none := by
  rw [event?, way]
  rcases shows with rfl | rfl | rfl <;> rfl

end Reports

/-! ## (2) Work that keeps the store -/

/-- Work leaves the store as it is, however it ends. -/
def Work.Keeps {α : Type} (work : Work α) : Prop :=
  ∀ world after (result : Except Stop α), Ends work world result after →
    after.store = world.store

namespace Work

variable {α β : Type}

theorem keeps_pure (value : α) : (pure value : Work α).Keeps :=
  fun _ _ _ ends => by rw [(ends_pure_iff.mp ends).2]

theorem keeps_refuse (refusal : Refusal) : (refuse refusal : Work α).Keeps :=
  fun _ _ _ ends => by rw [(ends_refuse_iff.mp ends).2]

theorem keeps_orRefuse (value : Option α) (refusal : Refusal) : (orRefuse value refusal).Keeps :=
  fun _ _ _ ends => by rw [(ends_orRefuse_iff.mp ends).2]

theorem keeps_look (find : Store → Outcome α) : (look find).Keeps :=
  fun _ _ _ ends => by rw [(ends_look_iff.mp ends).2]

theorem Keeps.bind {first : Work α} {second : α → Work β} (keeps : first.Keeps)
    (others : ∀ value, (second value).Keeps) : (first >>= second).Keeps := by
  intro world after result ends
  rcases ends_bind_iff.mp ends with ⟨value, between, hfirst, hsecond⟩ | ⟨reason, hfirst, -⟩
  · rw [others value _ _ _ hsecond, keeps _ _ _ hfirst]
  · exact keeps _ _ _ hfirst

end Work

theorem keeps_showClassroom (id : Int) : (showClassroom id).Keeps :=
  (Work.keeps_look _).bind fun _ => (Work.keeps_orRefuse _ _).bind fun _ => Work.keeps_pure _

theorem keeps_listAssignments (classroom : Int) : (listAssignments classroom).Keeps :=
  (Work.keeps_look _).bind fun _ => Work.keeps_pure _

/-- What leads to work that keeps the store keeps it, too. -/
theorem keeps_serveNumber {request : Web.Request} {name : Text} {parts : List Text}
    {work : Educator → Int → Work Web.Response} (keeps : ∀ educator number,
      (work educator number).Keeps) : (serveNumber request name parts work).Keeps := by
  intro world after result ends
  rcases ends_serveNumber ends with ⟨_, -, rfl, -⟩ | ⟨educator, number, -, -, ends⟩
  · rfl
  · exact keeps educator number (asked world request) _ _ ends

/-! ## (3) Steps -/

/-- What becomes of the store, and what is reported of it. -/
inductive Step (request : Web.Request) (world after : World) : Option Event → Prop
  /-- Nothing is done. -/
  | nothing (same : after.store = world.store) : Step request world after none
  /-- The classroom that the request gives is added. -/
  | classroom {form : ClassroomForm} (gives : Gives request ClassroomForm.ofFields form)
    (added : after.store = world.store.addClassroom
      { id := world.store.nextClassroom, name := form.name, students := some form.students }) :
    Step request world after (some (.classroom (shownClassroom
      { id := world.store.nextClassroom, name := form.name, students := some form.students })))
  /-- An assignment is added behind a document that was shared with the students. -/
  | assignment {educator : Educator} {brief : Brief} {classroom : Classroom} {answer : Text}
    {accepted : Reply.Accepted} {link : Link}
    {exchanged : List (Remote.Request × Remote.Reply)}
    (hasToken : educator.token ≠ []) (hosts : Hosts world.store brief classroom)
    (answers : Generation.ofAnswer answer = .ok accepted)
    (course : Distribution brief.title (markdownOf accepted) educator.token classroom.readers
      exchanged (.ok link))
    (fit : Store.checkTexts (newAssignment world.store.nextAssignment brief accepted.record
      (markdownOf accepted) link classroom educator).texts = .ok ())
    (log : after.log = world.log ++ .inquiry educator.token ::
      .question (Generation.question brief) :: exchanged.map (Call.request ∘ Prod.fst))
    (added : after.store = world.store.addAssignment (newAssignment world.store.nextAssignment
      brief accepted.record (markdownOf accepted) link classroom educator)) :
    Step request world after (some (.assignment (shownAssignment (newAssignment
      world.store.nextAssignment brief accepted.record (markdownOf accepted) link classroom
      educator))))
  /-- An assignment that is there is approved. -/
  | approval {id : Int} (names : Names request .approveAssignment id)
    (known : id ∈ world.store.assignments.map Assignment.id)
    (marked : after.store = world.store.setStatus id .approved) :
    Step request world after (some (.approval id))

section Services

variable {request : Web.Request} {world after : World} {result : Except Stop Web.Response}
  {parts : List Text}

theorem asked_of_admits {educator : Educator} (admits : Admits world request educator) :
    asked world request = { world with log := world.log ++ [.inquiry educator.token] } := by
  obtain ⟨token, borne, confirmed⟩ := admits
  rw [asked, borne, token_of_confirmed confirmed]
  rfl

/-- Work that stops and leaves the store alone is a step. -/
theorem step_of_error (reason : Stop) (same : after.store = world.store) :
    Step request world after (event? request (conclude request (.error reason))) := by
  rw [event?_of_error]
  exact .nothing same

/-- A new assignment is a step. -/
theorem step_createAssignment
    (way : Way.ofRequest request = .service .createAssignment parts)
    (ends : Ends (serveGiven request Brief.ofFields createAssignment) world result after) :
    Step request world after (event? request (conclude request result)) := by
  rcases ends_serveGiven ends with ⟨reason, rfl, rfl, -⟩ | ⟨reason, rfl, rfl, -⟩ |
    ⟨educator, brief, admits, -, ends⟩
  · exact step_of_error reason rfl
  · exact step_of_error reason rfl
  obtain ⟨trace, course, log, -⟩ := ends_createAssignment ends
  rw [asked_of_admits admits] at course log
  generalize added : after.store = next at course
  cases course with
  | unplaced | unanswered | undistributed | unkept => exact step_of_error _ added
  | @kept classroom accepted link exchanged hosts answers course fit =>
      obtain ⟨answer, -, answers⟩ := Outcome.bind_eq_ok_iff.mp answers
      have reported (assignment : Assignment) (noticed : List Diagnostic) :
          event? request (conclude request (.ok (createdResponse assignment noticed))) =
            some (.assignment (shownAssignment assignment)) := by
        rw [event?, way]
        rfl
      rw [reported]
      refine .assignment admits.token_ne_nil hosts answers course fit ?_ added
      rw [log, List.map_cons, map_call_ofExchange, List.append_assoc]
      rfl

/-- A classroom is always added and shown. -/
theorem ends_createClassroom {form : ClassroomForm}
    (ends : Ends (createClassroom form) world result after) :
    let classroom : Classroom :=
      { id := world.store.nextClassroom, name := form.name, students := some form.students }
    result = .ok { status := 201, content := .json (shownClassroom classroom) } ∧
      after.store = world.store.addClassroom classroom := by
  rw [createClassroom, ends_get_bind_iff, ends_bind_iff] at ends
  simp only [Work.ends_change_iff, ends_pure_iff] at ends
  rcases ends with ⟨_, _, ⟨-, rfl⟩, rfl, rfl⟩ | ⟨reason, ⟨⟨⟩, -⟩, -⟩
  exact ⟨rfl, rfl⟩

/-- So is a new classroom. -/
theorem step_createClassroom
    (way : Way.ofRequest request = .service .createClassroom parts)
    (ends : Ends (serveGiven request ClassroomForm.ofFields fun _ form => createClassroom form)
      world result after) :
    Step request world after (event? request (conclude request result)) := by
  rcases ends_serveGiven ends with ⟨reason, rfl, rfl, -⟩ | ⟨reason, rfl, rfl, -⟩ |
    ⟨educator, form, -, gives, ends⟩
  · exact step_of_error reason rfl
  · exact step_of_error reason rfl
  obtain ⟨rfl, added⟩ := ends_createClassroom ends
  have reported (content : Json) :
      event? request (conclude request (.ok { status := 201, content := .json content })) =
        some (.classroom content) := by
    rw [event?, way]
    rfl
  rw [reported]
  exact .classroom gives added

/-- The row that an approval is about is there. -/
theorem Concerns.mem {store : Store} {id : Int} {row : Assignment} {classroom : Classroom}
    (concerns : Concerns store id row classroom) : row ∈ store.assignments ∧ row.id = id := by
  have found : store.assignments.find? (·.id = id) = some row :=
    (Store.findAssignment_eq_ok_iff.mp concerns.found).2
  have same := List.find?_some found
  exact ⟨List.mem_of_find?_eq_some found, of_decide_eq_true same⟩

/-- So is an approval. -/
theorem step_approveAssignment
    (way : Way.ofRequest request = .service .approveAssignment parts)
    (ends : Ends (serveNumber request "assignment_id" parts approveAssignment) world result
      after) :
    Step request world after (event? request (conclude request result)) := by
  rcases ends_serveNumber ends with ⟨reason, rfl, rfl, -⟩ | ⟨educator, id, admits, read, ends⟩
  · exact step_of_error reason rfl
  obtain ⟨attempts, course, -, -⟩ := ends_approveAssignment admits.token_ne_nil ends
  rw [asked_of_admits admits] at course
  generalize marked : after.store = next at course
  cases course with
  | unplaced | untold => exact step_of_error _ marked
  | approved concerns told =>
      have reported : event? request (conclude request (.ok approvedResponse)) =
          some (.approval id) := by
        have found : (Form.readInteger (parts.headD [])).toOption = some id := by
          rw [read]
          rfl
        rw [event?, way]
        exact congrArg (Option.map Event.approval) found
      rw [reported]
      obtain ⟨member, rfl⟩ := concerns.mem
      exact .approval ⟨parts, way, read⟩ (List.mem_map_of_mem member) marked

end Services

/-- A request that leads to no service leaves the store alone. -/
theorem store_of_astray {request : Web.Request}
    (astray : ∀ service parts, Way.ofRequest request ≠ .service service parts) (world : World) :
    (answer request world).2.store = world.store := by
  cases asks : Web.preflight? request with
  | some response => rw [answer, asks]
  | none =>
      obtain ⟨result, ends, -⟩ := ends_answer asks world
      rw [serve] at ends
      cases way : Way.ofRequest request with
      | service service parts => exact absurd way (astray service parts)
      | otherMethod method =>
          rw [way] at ends
          exact Work.keeps_refuse _ _ _ _ ends
      | elsewhere path =>
          rw [way] at ends
          exact Work.keeps_pure _ _ _ _ ends
      | nowhere =>
          rw [way] at ends
          exact Work.keeps_refuse _ _ _ _ ends

/-- Every request is a step. -/
theorem step_answer (request : Web.Request) (world : World) :
    Step request world (answer request world).2 (event? request (answer request world).1) := by
  by_cases leads : ∃ service parts, Way.ofRequest request = .service service parts
  · obtain ⟨service, parts, way⟩ := leads
    obtain ⟨result, ends, concluded⟩ := ends_of_way way world
    rw [concluded]
    cases service with
    | createAssignment => exact step_createAssignment way ends
    | approveAssignment => exact step_approveAssignment way ends
    | createClassroom => exact step_createClassroom way ends
    | listAssignments =>
        rw [event?_of_shows way (.inl rfl)]
        exact .nothing (keeps_serveNumber (fun _ => keeps_listAssignments) _ _ _ ends)
    | showClassroom =>
        rw [event?_of_shows way (.inr (.inl rfl))]
        exact .nothing (keeps_serveNumber (fun _ => keeps_showClassroom) _ _ _ ends)
    | showStatus =>
        rw [event?_of_shows way (.inr (.inr rfl))]
        exact .nothing (Work.keeps_pure _ _ _ _ ends)
  · have astray : ∀ service parts, Way.ofRequest request ≠ .service service parts :=
      fun service parts way => leads ⟨service, parts, way⟩
    rw [event?_of_astray astray]
    exact .nothing (store_of_astray astray world)

end Coursework.Api
