import Coursework.Api.Server
import Coursework.Proofs.Ending
import Coursework.Proofs.Outcome

/-! # From a request to its service

* **`ends_answer`**: the response to a request concludes the work of the service to which the
  request leads.
* **`Creates`** is a request for a new assignment.
* **`sampleRequest`** is one, **`sampleWorld`** a world in which it leads to an assignment. -/

namespace Coursework.Api

/-- A request that asks nothing beforehand is answered by what the work on it concludes with, and
its world is that in which the work ends. -/
theorem ends_answer {request : Web.Request} (asksNothing : Web.preflight? request = none)
    (world : World) :
    ∃ result, Ends (serve request) world result (answer request world).2 ∧
      (answer request world).1 = withoutContent request (conclude request result) := by
  obtain ⟨result, after, ends⟩ := exists_ends (serve request) world
  have run : (serve request).run.run world = (result, after) := ends
  refine ⟨result, ?_, ?_⟩
  · rw [answer, asksNothing, run]
    exact ends
  · rw [answer, asksNothing, run]

/-- A response that tells of a failure has the status 500. -/
theorem status_failureResponse (failure : Failure) : (failureResponse failure).status = 500 := by
  rw [failureResponse]
  split <;> rfl

/-- Work that stops has a status from 400 on. -/
theorem le_status_conclude_error (request : Web.Request) (reason : Stop) :
    400 ≤ (conclude request (.error reason)).status := by
  cases reason with
  | failed failure =>
      have h : (conclude request (.error (.failed failure))).status = 500 :=
        status_failureResponse failure
      omega
  | refused refusal =>
      rw [conclude]
      cases written : refusal.response with
      | error failure =>
          have h := status_failureResponse failure
          simp only
          omega
      | ok response =>
          obtain ⟨_, -, h⟩ := Outcome.bind_eq_ok_iff.mp written
          obtain rfl := Except.ok.inj h
          cases refusal <;> exact Nat.le_of_ble_eq_true rfl

/-- A request that posts something asks nothing beforehand. -/
theorem preflight?_of_posts {request : Web.Request}
    (posts : request.method = Text.ofString "POST") : Web.preflight? request = none := by
  rw [Web.preflight?]
  split
  · rw [posts]
    rfl
  · rfl

/-- A request is one for a new assignment. -/
def Creates (request : Web.Request) : Prop :=
  request.method = Text.ofString "POST" ∧
    request.sentPath.percentDecoded = Text.ofString "/api/assignments"

namespace Creates

variable {request : Web.Request}

/-- It leads to the service for new assignments. -/
theorem way (creates : Creates request) :
    Way.ofRequest request = .service .createAssignment [] := by
  rw [Way.ofRequest, creates.1, creates.2]
  decide

/-- Its answer is what the work on a new assignment concludes with. -/
theorem ends (creates : Creates request) (world : World) :
    ∃ result, Ends (serveGiven request Brief.ofFields createAssignment) world result
        (answer request world).2 ∧
      (answer request world).1 = conclude request result := by
  obtain ⟨result, ends, concluded⟩ := ends_answer (preflight?_of_posts creates.1) world
  rw [serve, creates.way] at ends
  rw [withoutContent, creates.1] at concluded
  exact ⟨result, ends, concluded⟩

end Creates

/-! ## An example -/

/-- A request for an assignment of the first classroom. -/
def sampleRequest : Web.Request where
  method := "POST"
  target := "/api/assignments"
  fields := [("authorization", "Bearer t"), ("content-type", "application/json")]
  text :=
    "\x7b\"title\": \"A\", \"subject\": \"B\", \"classroomId\": 1, \"deadline\": \"C\"\x7d"

/-- The reply of a model that describes an assignment without tasks. -/
def sampleReply : Text :=
  ("\x7b\"title\": \"A\", \"deadline\": \"B\", \"numberOfTasks\": 0, " : Text) ++
    "\"totalMarksWeightage\": \"1\", \"evaluationCriteria\": \"C\", \"tasks\": []\x7d"

/-- A classroom with one student. -/
def sampleClassroom : Classroom := { id := 1, name := "M", students := some ["a@b.co"] }

/-- A world with that classroom, in which everybody who is asked gives an answer of use. -/
def sampleWorld : World where
  store := { classrooms := [sampleClassroom] }
  issuer := .answered 200 "\x7b\"email\": \"e@b.co\"\x7d"
  answers := [.content (some sampleReply)]

/-- It is a request for a new assignment. -/
theorem creates_sampleRequest : Creates sampleRequest := ⟨rfl, by decide +kernel⟩

end Coursework.Api
