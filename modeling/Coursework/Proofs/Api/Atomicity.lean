import Coursework.Proofs.Api.Writing

/-! # A new assignment is added or nothing is changed

The answer to a request for a new assignment tells what has become of the store: it has the
status 201 exactly if one row was added, and behind any other answer the store is what it was. An
answer with that status can be written, so that no row is added behind an answer that fails.

* **`AddsOne`** is the one change that there is.
* **`Tells`** is what the answer says of it, **`tells_of_creates`** the statement. -/

namespace Coursework.Api

/-- A store has one assignment more, with a number of its own, and is otherwise the same. -/
def AddsOne (store next : Store) : Prop :=
  ∃ row : Assignment, row.id ∉ store.assignments.map Assignment.id ∧
    next.assignments = store.assignments ++ [row] ∧ next.classrooms = store.classrooms

/-- An assignment with the next number is one more. -/
theorem addsOne_addAssignment {store : Store} {row : Assignment}
    (next : row.id = store.nextAssignment) : AddsOne store (store.addAssignment row) := by
  refine ⟨row, fun used => ?_, store.assignments_addAssignment row next, rfl⟩
  have := Store.lt_nextId used
  rw [next] at this
  exact Int.lt_irrefl _ this

/-- A store that stays the same has no assignment more. -/
theorem not_addsOne (store : Store) : ¬AddsOne store store := by
  rintro ⟨row, -, added, -⟩
  have := congrArg List.length added
  rw [List.length_append, List.length_singleton] at this
  omega

/-! ## Requests for a new assignment -/

/-- A response to a request for a new assignment tells what has become of the store. -/
structure Tells (before after : Store) (response : Web.Response) : Prop where
  /-- It says that something was created exactly if an assignment was added. -/
  created : response.status = 201 ↔ AddsOne before after
  /-- If it does not, the store is what it was. -/
  otherwise : response.status ≠ 201 → after = before
  /-- If it does, it can be written. -/
  written : response.status = 201 →
    ∃ content, response.content = .json content ∧ checkWritable content = .ok ()

/-- Work that stops does not lead to the status of what was added. -/
theorem status_conclude_ne (request : Web.Request) (reason : Stop) :
    (conclude request (.error reason)).status ≠ 201 := by
  have := le_status_conclude_error request reason
  omega

/-- Work that stops leaves the store alone, and the response does not say otherwise. -/
theorem tells_of_stop (store : Store) (request : Web.Request) (reason : Stop) :
    Tells store store (conclude request (.error reason)) where
  created := ⟨fun created => absurd created (status_conclude_ne request reason),
    fun adds => absurd adds (not_addsOne store)⟩
  otherwise _ := rfl
  written created := absurd created (status_conclude_ne request reason)

/-- So it is with the work on a new assignment, as far as it comes. -/
theorem tells_of_creation {store next : Store} {answer : Completion.Answer}
    {educator : Remote.Educator} {brief : Brief} {trace : List Asked}
    {result : Except Stop Web.Response} (reachable : Reachable store) (request : Web.Request)
    (course : Creation store answer educator brief trace result next) :
    Tells store next (conclude request result) := by
  cases course with
  | unplaced | unanswered | undistributed | unkept => exact tells_of_stop store request _
  | kept hosts answers course fit =>
      obtain ⟨text, -, answers⟩ := Outcome.bind_eq_ok_iff.mp answers
      exact {
        created := ⟨fun _ => addsOne_addAssignment rfl, fun _ => rfl⟩
        otherwise := fun other => absurd rfl other
        written := fun _ => checkWritable_of_hosts reachable hosts answers fit }

/-- A request for a new assignment either adds it and is answered with the status 201, by content
that can be written, or changes nothing and has another answer. -/
theorem tells_of_creates (request : Web.Request) (world : World)
    (reachable : Reachable world.store) (creates : Creates request) :
    Tells world.store (answer request world).2.store (answer request world).1 := by
  obtain ⟨result, ends, concluded⟩ := creates.ends world
  rw [concluded]
  generalize (answer request world).2 = after at ends
  rcases ends_serveGiven ends with ⟨reason, rfl, rfl, -⟩ | ⟨reason, rfl, rfl, -⟩ |
    ⟨educator, brief, -, -, ends⟩
  · exact tells_of_stop _ request reason
  · exact tells_of_stop _ request reason
  · obtain ⟨trace, course, -, -⟩ := ends_createAssignment ends
    exact tells_of_creation reachable request course

/-- The request for the classroom of the sample world. -/
def classroomRequest : Web.Request where
  method := "POST"
  target := "/api/classrooms"
  fields := [("authorization", "Bearer t"), ("content-type", "application/json")]
  text := "\x7b\"name\": \"M\", \"students\": [\"a@b.co\"]\x7d"

/-- Where the issuer of tokens is that of the sample world, its educator is known. -/
theorem admits_sample {world : World} {request : Web.Request}
    (bears : tokenOf request = some (Text.ofString "t"))
    (known : world.issuer = sampleWorld.issuer) : Admits world request ⟨"e@b.co", "t"⟩ := by
  have confirmed : Remote.Educator.confirmed "t" sampleWorld.issuer =
      .ok (some ⟨"e@b.co", "t"⟩) := by cbv
  exact ⟨"t", bears, known ▸ confirmed⟩

/-- It leads from the empty store to that of the sample world. -/
theorem store_classroomRequest :
    (answer classroomRequest { sampleWorld with store := {} }).2.store = sampleWorld.store := by
  let fields : Form.Fields := [("name", .text "M"), ("students", .list [.text "a@b.co"])]
  have body : readBody classroomRequest = pure (.object fields) := by
    have read : Json.read (Remote.withoutMark classroomRequest.text) = .ok (.object fields) := by
      cbv
    rw [readBody, if_neg (by decide), if_pos (by decide +kernel)]
    simp only [read]
  have name : Form.required ["name"] (Form.textOfLength 1 255) fields = .ok "M" := by
    decide +kernel
  have student : Form.mailbox (.text "a@b.co") = .ok "a@b.co" := by
    refine Outcome.bind_eq_ok_iff.mpr ⟨"a@b.co", rfl, ?_⟩
    rw [Mailbox.read_short]
    rfl
  have students : Form.withDefault [] ["students"] (Form.list Form.mailbox) fields =
      .ok ["a@b.co"] := by
    have found : Form.lookUp fields ["students"] =
        some (("students" : Text), .list [.text "a@b.co"]) := by cbv
    rw [Form.withDefault, found]
    simp only [Form.list, Checked.each, Checked.eachFrom, student]
    rfl
  have fits : given ClassroomForm.ofFields (.object fields) = .ok ⟨"M", ["a@b.co"]⟩ := by
    rw [given_object, ClassroomForm.ofFields, name, students]
    rfl
  have gives : Gives classroomRequest ClassroomForm.ofFields ⟨"M", ["a@b.co"]⟩ :=
    ⟨.object fields, fun _ => body ▸ ends_pure_iff.mpr ⟨rfl, rfl⟩, fits⟩
  have admits : Admits { sampleWorld with store := {} } classroomRequest ⟨"e@b.co", "t"⟩ :=
    admits_sample (by decide +kernel) rfl
  exact store_of_gives rfl (by decide +kernel) admits gives

/-- The sample world is one to which a request leads. -/
theorem reachable_sampleWorld : Reachable sampleWorld.store :=
  store_classroomRequest ▸
    Reachable.answer classroomRequest { sampleWorld with store := {} } .empty

/-- A request that is answered with the status 201 adds a row. -/
theorem tells_of_creates_sample :
    Reachable sampleWorld.store ∧ Creates sampleRequest ∧
      (answer sampleRequest sampleWorld).1.status = 201 ∧
      Tells sampleWorld.store (answer sampleRequest sampleWorld).2.store
        (answer sampleRequest sampleWorld).1 :=
  ⟨reachable_sampleWorld, creates_sampleRequest, by decide +kernel,
    tells_of_creates sampleRequest sampleWorld reachable_sampleWorld creates_sampleRequest⟩

end Coursework.Api
