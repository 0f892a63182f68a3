import Coursework.Proofs.Api.Course
import Coursework.Proofs.Api.Rows

/-! # An assignment is approved or nothing is changed

The students of the classroom are told, while the document was shared with those that the row
remembers. Behind every run they are the same, so that an approval tells the readers of the
document, and marks the row exactly if it told them all.

* **`SharedIn`** says that a run shared the document of a row with its students;
  **`sharedIn_of_run`** shows it of every row.
* **`ApprovalOf`** lists how an approval ends behind a run; **`exists_approvalOf`** shows that there
  is no other way.
* **`Approving`** is what becomes of an approval, **`approving_of_run`** the statement. -/

namespace Coursework.Api

open Remote (Attempt Educator Link Telling exchangedIn)

/-! ## (1) With whom a document was shared -/

/-- A request of a history added a row, and asked for everything on the way to it, up to sharing
its document with the last of its students. -/
def SharedIn (history : List Served) (row : Assignment) : Prop :=
  ∃ served ∈ history, ∃ shown, served.event? = some (.assignment shown) ∧
    numberIn? "id" shown = some row.id ∧
    ∃ commission : Commission, served.calls = commission.calls ∧
      commission.classroom.readers = row.students ∧
      ∃ identity, row.document = some identity ∧ identity.percentEncoded = .ok commission.part

theorem SharedIn.append {history : List Served} {row : Assignment}
    (shared : SharedIn history row) (more : List Served) : SharedIn (history ++ more) row := by
  obtain ⟨served, member, rest⟩ := shared
  exact ⟨served, List.mem_append_left _ member, rest⟩

/-- What was asked is the end of the log. -/
theorem Served.calls_eq {served : Served} {calls : List Call}
    (log : served.after.log = served.world.log ++ calls) : served.calls = calls := by
  rw [Served.calls, log, List.drop_left]

/-- The calls for a document that was shared are those of the whole way to it. -/
theorem exists_commission {brief : Brief} {classroom : Classroom} {accepted : Reply.Accepted}
    {educator : Educator} {link : Link} {exchanged : List (Remote.Request × Remote.Reply)}
    (hasToken : educator.token ≠ [])
    (course : Distribution brief.title (markdownOf accepted) educator.token classroom.readers
      exchanged (.ok link)) :
    ∃ commission : Commission, commission.classroom = classroom ∧
      link.identity.percentEncoded = .ok commission.part ∧
      commission.calls = .inquiry educator.token :: .question (Generation.question brief) ::
        exchanged.map (Call.request ∘ Prod.fst) := by
  obtain ⟨compilation, part, follows⟩ := follows_of_distribution course hasToken
  obtain ⟨whole, -, identity, reply, -, named⟩ := follows.complete link rfl
  refine ⟨{ token := educator.token, brief, classroom, compilation, part }, rfl,
    named.percentEncoded, ?_⟩
  rw [← List.map_map, whole]
  simp [Commission.calls, leg]

/-- Behind every run, the document of every row was shared with its students. -/
theorem sharedIn_of_run {history : List Served} {store : Store} (run : Run history store) :
    ∀ row ∈ store.assignments, SharedIn history row := by
  induction run with
  | start => exact fun _ member => absurd member List.not_mem_nil
  | @next history served run ih =>
      have before : ∀ row ∈ served.world.store.assignments, SharedIn (history ++ [served]) row :=
        fun row member => (ih row member).append [served]
      have step := served.step
      generalize reported : served.event? = event at step
      cases step with
      | nothing same =>
          rw [same]
          exact before
      | classroom gives added =>
          rw [added]
          exact before
      | assignment hasToken hosts answers course fit calls added =>
          rw [added, Store.assignments_addAssignment _ _ rfl]
          simp only [List.forall_mem_append, List.forall_mem_singleton]
          obtain ⟨commission, rfl, encoded, whole⟩ := exists_commission hasToken course
          refine ⟨before, served, List.mem_append_right _ List.mem_cons_self, _, reported, rfl,
            commission, ?_, rfl, _, rfl, encoded⟩
          rw [whole]
          exact Served.calls_eq calls
      | approval names known marked =>
          rw [marked, Store.assignments_setStatus]
          simp only [List.forall_mem_map]
          intro row member
          split
          · exact before row member
          · exact before row member

/-! ## (2) How an approval ends -/

/-- Behind every run, the approval of a row whose number fits is about that row and a classroom
with its students. -/
theorem exists_concerns {history : List Served} {store : Store} (run : Run history store)
    {row : Assignment} (member : row ∈ store.assignments)
    (fits : Form.fitsWord row.id = true) :
    ∃ classroom, Concerns store row.id row classroom ∧ classroom.readers = row.students := by
  have sound := sound_of_run run row member
  obtain ⟨classroom, placed, readers⟩ := sound.exists_classroom
  have found : store.findAssignment row.id = .ok (some row) :=
    Store.findAssignment_eq_ok_iff.mpr
      ⟨fits, (kept_of_run run).ascending.assignment?_iff.mpr ⟨member, rfl⟩⟩
  exact ⟨classroom, ⟨found, placed, readers ▸ sound.placed.1⟩, readers⟩

/-- A number that does not fit is not looked up. -/
theorem Concerns.fits {store : Store} {id : Int} {row : Assignment} {classroom : Classroom}
    (concerns : Concerns store id row classroom) : Form.fitsWord id = true :=
  (Store.findAssignment_eq_ok_iff.mp concerns.found).1

/-- How the approval of a row by an educator ends behind a run, with the attempts to tell the
students of the row. -/
inductive ApprovalOf (served : Served) (educator : Educator) (row : Assignment) :
    List Attempt → Prop
  /-- The number of the row has more than 64 bits and is not looked up. -/
  | unfound (wide : Form.fitsWord row.id = false) (unapproved : served.response.status ≠ 200)
    (same : served.after.store = served.world.store) : ApprovalOf served educator row []
  /-- Not all students are told. -/
  | untold {attempts : List Attempt} {failure : Failure} (fits : Form.fitsWord row.id = true)
    (course : Telling (noticeFor educator row) row.students attempts (.error failure))
    (unapproved : served.response.status ≠ 200)
    (same : served.after.store = served.world.store) : ApprovalOf served educator row attempts
  /-- They are, and the row is marked. -/
  | approved {attempts : List Attempt} (fits : Form.fitsWord row.id = true)
    (course : Telling (noticeFor educator row) row.students attempts (.ok ()))
    (success : served.response.status = 200)
    (marked : served.after.store = served.world.store.setStatus row.id .approved) :
    ApprovalOf served educator row attempts

/-- Work that stops does not have the status of an approval. -/
theorem status_conclude_ne_approved (request : Web.Request) (reason : Stop) :
    (conclude request (.error reason)).status ≠ 200 := by
  have := le_status_conclude_error request reason
  omega

/-- There is no other way for it to end, and nothing else is asked. -/
theorem exists_approvalOf {history : List Served} {served : Served} {educator : Educator}
    {row : Assignment} (run : Run history served.world.store)
    (admits : Admits served.world served.request educator)
    (member : row ∈ served.world.store.assignments)
    (names : Names served.request .approveAssignment row.id) :
    ∃ attempts, ApprovalOf served educator row attempts ∧
      served.calls =
        .inquiry educator.token :: (exchangedIn attempts).map (Call.request ∘ Prod.fst) ∧
      (Work.session served.world).repliesTo ((exchangedIn attempts).map Prod.fst) =
        (exchangedIn attempts).map Prod.snd := by
  obtain ⟨result, ends, concluded⟩ := ends_of_names (fun _ => rfl) admits names
  obtain ⟨attempts, course, replies, log⟩ := ends_approveAssignment admits.token_ne_nil ends
  rw [asked_of_admits admits] at course replies log
  have calls : served.calls =
      .inquiry educator.token :: (exchangedIn attempts).map (Call.request ∘ Prod.fst) := by
    refine Served.calls_eq ?_
    rw [Served.after, log, List.append_assoc]
    rfl
  have response : served.response = conclude served.request result := concluded
  have stored : served.after.store = (answer served.request served.world).2.store := rfl
  rw [← stored] at course
  generalize marked : served.after.store = next at course
  refine ⟨attempts, ?_, calls, replies⟩
  cases course with
  | unplaced homeless =>
      -- the row has a classroom with students, so its number is not looked up
      have wide : Form.fitsWord row.id = false := by
        by_contra fits
        obtain ⟨classroom, concerns, -⟩ :=
          exists_concerns run member (Bool.eq_true_of_not_eq_false fits)
        exact homeless row classroom concerns
      exact .unfound wide (response ▸ status_conclude_ne_approved served.request _) marked
  | untold concerns course =>
      obtain ⟨classroom, again, readers⟩ := exists_concerns run member concerns.fits
      obtain ⟨rfl, rfl⟩ := concerns.unique again
      exact .untold concerns.fits (readers ▸ course)
        (response ▸ status_conclude_ne_approved served.request _) marked
  | approved concerns course =>
      obtain ⟨classroom, again, readers⟩ := exists_concerns run member concerns.fits
      obtain ⟨rfl, rfl⟩ := concerns.unique again
      have success : served.response.status = 200 := by
        rw [response]
        rfl
      exact .approved concerns.fits (readers ▸ course) success marked

/-! ## (3) All or nothing -/

/-- What becomes of the approval of a row by an educator behind a history, with the attempts to
tell its students. -/
structure Approving (history : List Served) (served : Served) (educator : Educator)
    (row : Assignment) (attempts : List Attempt) : Prop where
  /-- The students of the row are told in order. -/
  ordered : attempts.map Attempt.student <+: row.students
  /-- Each gets the message about the row. -/
  made : ∀ attempt ∈ attempts, attempt.Made (noticeFor educator row attempt.student)
  /-- Behind an attempt that fails there is none. -/
  stops : ∀ attempt ∈ attempts.dropLast, attempt.Succeeds
  /-- Behind one that succeeds it goes on, and it begins unless the number of the row has more
  than 64 bits. -/
  goesOn : attempts.map Attempt.student = row.students ∨
    (∃ attempt, attempts.getLast? = some attempt ∧ ¬attempt.Succeeds) ∨
    attempts = [] ∧ Form.fitsWord row.id = false
  /-- Besides the question whose the token is, nothing else is asked. -/
  calls : served.calls =
    .inquiry educator.token :: (exchangedIn attempts).map (Call.request ∘ Prod.fst)
  /-- The replies are those that the world has for it. -/
  replies : (Work.session served.world).repliesTo ((exchangedIn attempts).map Prod.fst) =
    (exchangedIn attempts).map Prod.snd
  /-- The document of the row was shared with the same students. -/
  shared : SharedIn history row
  /-- The response has the status 200 exactly if all were told and every attempt succeeded. -/
  approved : served.response.status = 200 ↔
    attempts.map Attempt.student = row.students ∧ ∀ attempt ∈ attempts, attempt.Succeeds
  /-- Then the row is approved, and nothing else is changed. -/
  marked : served.response.status = 200 → ∃ earlier later,
    served.world.store.assignments = earlier ++ row :: later ∧
      served.after.store = { served.world.store with
        assignments := earlier ++ { row with status := .approved } :: later }
  /-- Otherwise nothing is changed. -/
  otherwise : served.response.status ≠ 200 → served.after.store = served.world.store

/-- Behind every run from the empty store, an approval tells the students with whom the document
was shared, one after another until one cannot be told, and approves the row exactly if all were
told. Nothing else is ever changed. -/
theorem approving_of_run {history : List Served} (served : Served) {educator : Educator}
    {row : Assignment} (run : Run history served.world.store)
    (admits : Admits served.world served.request educator)
    (member : row ∈ served.world.store.assignments)
    (names : Names served.request .approveAssignment row.id) :
    ∃ attempts, Approving history served educator row attempts := by
  obtain ⟨attempts, approval, calls, replies⟩ := exists_approvalOf run admits member names
  have shared := sharedIn_of_run run row member
  have own : ∀ student, (noticeFor educator row student).recipient = student := fun _ => rfl
  refine ⟨attempts, ?_⟩
  cases approval with
  | unfound wide unapproved same =>
      have peopled := (sound_of_run run row member).placed.1
      exact {
        ordered := List.nil_prefix
        made := by simp
        stops := by simp
        goesOn := .inr (.inr ⟨rfl, wide⟩)
        calls := calls
        replies := replies
        shared := shared
        approved := iff_of_false unapproved fun told => peopled told.1.symm
        marked := fun approved => absurd approved unapproved
        otherwise := fun _ => same }
  | untold _ course unapproved same =>
      obtain ⟨last, isLast, fails⟩ := course.exists_last_of_error rfl
      exact {
        ordered := course.isPrefix own
        made := course.made own
        stops := course.succeeds
        goesOn := .inr (.inl ⟨last, isLast, fails⟩)
        calls := calls
        replies := replies
        shared := shared
        approved := iff_of_false unapproved fun told =>
          fails (told.2 last (List.mem_of_getLast? isLast))
        marked := fun approved => absurd approved unapproved
        otherwise := fun _ => same }
  | approved _ course success marked =>
      have complete := course.complete own rfl
      exact {
        ordered := course.isPrefix own
        made := course.made own
        stops := course.succeeds
        goesOn := .inl complete.1
        calls := calls
        replies := replies
        shared := shared
        approved := iff_of_true success complete
        marked := fun _ => by
          rw [marked]
          exact (kept_of_run run).ascending.setStatus_eq member .approved
        otherwise := fun other => absurd success other }

/-- The request to approve the first assignment. -/
def approveRequest : Web.Request where
  method := "PUT"
  target := "/api/assignments/1/approve"
  fields := [("authorization", "Bearer t")]

/-- Behind the sample it is approved. -/
theorem status_approveRequest :
    (answer approveRequest
      { sampleWorld with store := (answer sampleRequest sampleWorld).2.store }).1.status = 200 := by
  decide +kernel

/-- The row of the sample is approved. -/
theorem approving_of_run_sample :
    ∃ store, Run sampleHistory store ∧
      let served : Served := ⟨approveRequest, { sampleWorld with store }⟩
      Admits served.world served.request ⟨"e@b.co", "t"⟩ ∧ served.response.status = 200 ∧
        ∃ row ∈ store.assignments, Names served.request .approveAssignment row.id ∧
          ∃ attempts, Approving sampleHistory served ⟨"e@b.co", "t"⟩ row attempts := by
  obtain ⟨store, stored⟩ : ∃ store, store = (answer sampleRequest sampleWorld).2.store :=
    ⟨_, rfl⟩
  have run : Run sampleHistory store := stored ▸ run_sampleHistory
  have admits : Admits { sampleWorld with store } approveRequest ⟨"e@b.co", "t"⟩ :=
    admits_sample (by decide +kernel) rfl
  have ids : store.assignments.map Assignment.id = [1] := stored ▸ map_id_sampleHistory
  obtain ⟨row, member, first⟩ := List.mem_map.mp (ids ▸ List.mem_singleton_self (1 : Int))
  have success : (answer approveRequest { sampleWorld with store }).1.status = 200 :=
    stored ▸ status_approveRequest
  have names : Names approveRequest .approveAssignment row.id :=
    first ▸ ⟨["1"], by decide +kernel, by rfl⟩
  exact ⟨store, run, admits, success, row, member, names,
    approving_of_run ⟨approveRequest, { sampleWorld with store }⟩ run admits member names⟩

end Coursework.Api
