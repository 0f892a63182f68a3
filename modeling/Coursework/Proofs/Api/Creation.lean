import Coursework.Proofs.Api.Admission
import Coursework.Proofs.Outcome
import Coursework.Proofs.Remote.Publication

/-! # How the work on a new assignment ends

An educator and a brief lead to a new assignment over the classroom, the answer of the model, the
document and its readers. The work ends at the first of these that fails, and only behind all of
them is there a new row.

* **`Distribution`** lists how far publishing and sharing come.
* **`Creation`** lists how far the whole work comes, with what was asked and answered;
  **`ends_createAssignment`** shows that there is no other way. -/

namespace Coursework.Api

open Remote (Educator Link Publication Sharing Session)

/-! ## (1) The classroom -/

/-- A brief is for a classroom that is there and has students. -/
def Hosts (store : Store) (brief : Brief) (classroom : Classroom) : Prop :=
  store.findClassroom brief.classroom = .ok (some classroom) ∧ classroom.readers ≠ []

/-- A brief is for one classroom. -/
theorem Hosts.unique {store : Store} {brief : Brief} {classroom other : Classroom}
    (hosts : Hosts store brief classroom) (again : Hosts store brief other) :
    classroom = other := by
  have h := hosts.1.symm.trans again.1
  rwa [Except.ok.injEq, Option.some.injEq] at h

/-- Only such a classroom lets the work go on, and nothing is asked for it. -/
theorem ends_classroomFor {brief : Brief} {world after : World} {result : Except Stop Classroom}
    (ends : Ends (classroomFor brief) world result after) :
    after = world ∧ ∀ classroom, result = .ok classroom ↔ Hosts world.store brief classroom := by
  rcases Work.ends_find ends with ⟨classroom, found, ends⟩ | ⟨unfound, ⟨reason, rfl⟩, rfl⟩
  · by_cases empty : classroom.readers = []
    · rw [if_pos (by simpa using empty)] at ends
      obtain ⟨rfl, rfl⟩ := ends.unique (Work.ends_refuse_iff.mpr ⟨rfl, rfl⟩).bind_error
      simp +contextual [Hosts, found, empty]
    · rw [if_neg (by simpa using empty)] at ends
      obtain ⟨rfl, rfl⟩ := ends_pure_iff.mp ends
      refine ⟨rfl, fun other => ⟨?_, fun hosts => ?_⟩⟩
      · rintro ⟨⟩
        exact ⟨found, empty⟩
      · rw [Hosts.unique hosts ⟨found, empty⟩]
  · exact ⟨rfl, fun classroom => iff_of_false (by simp) fun hosts => unfound classroom hosts.1⟩

/-! ## (2) The document and its readers -/

/-- How far publishing a document and sharing it with readers come: what is sent and replied, and
how it ends. -/
inductive Distribution (title content token : Text) (readers : List Text) :
    List (Remote.Request × Remote.Reply) → Outcome Link → Prop
  /-- The document is not published. -/
  | unpublished {exchanged : List (Remote.Request × Remote.Reply)} {failure : Failure}
    (course : Publication title (.value (.text content)) token exchanged (.error failure)) :
    Distribution title content token readers exchanged (.error failure)
  /-- It is published, but not shared with all. -/
  | unshared {exchanged others : List (Remote.Request × Remote.Reply)} {link : Link}
    {part : Text} {failure : Failure}
    (published : Publication title (.value (.text content)) token exchanged (.ok link))
    (encoded : link.identity.percentEncoded = .ok part)
    (course : Sharing part readers others (.error failure)) :
    Distribution title content token readers (exchanged ++ others) (.error failure)
  /-- It is published and shared with all. -/
  | shared {exchanged others : List (Remote.Request × Remote.Reply)} {link : Link} {part : Text}
    (published : Publication title (.value (.text content)) token exchanged (.ok link))
    (encoded : link.identity.percentEncoded = .ok part)
    (course : Sharing part readers others (.ok ())) :
    Distribution title content token readers (exchanged ++ others) (.ok link)

/-- There is no other way for publishing and sharing to end. What was sent is entered in the log,
and the store is left as it is. -/
theorem ends_publishFor {title content : Text} {readers : List Text} {educator : Educator}
    {world after : World} {result : Except Stop Link}
    (ends : Ends (publishFor title content readers educator) world result after) :
    ∃ exchanged outcome, Distribution title content educator.token readers exchanged outcome ∧
      result = outcome.mapError Stop.ofRemote ∧
      (Work.session world).repliesTo (exchanged.map Prod.fst) = exchanged.map Prod.snd ∧
      after.log = world.log ++ exchanged.map (Call.request ∘ Prod.fst) ∧
      after.store = world.store := by
  rw [publishFor, Work.ends_exchange_iff] at ends
  obtain ⟨outcome, later, ends, rfl, rfl⟩ := ends
  suffices ∃ exchanged, (Work.session world).Exchanges exchanged later ∧
      Distribution title content educator.token readers exchanged outcome by
    obtain ⟨exchanged, exchanges, course⟩ := this
    refine ⟨exchanged, outcome, course, rfl, exchanges.replies, ?_, rfl⟩
    rw [exchanges.leads.sent, Work.session, List.nil_append, List.map_map]
  rw [ends_bind_iff] at ends
  rcases ends with ⟨link, between, published, ends⟩ | ⟨failure, unpublished, rfl⟩
  · obtain ⟨exchanged, exchanges, course⟩ := Remote.ends_publish published
    -- a link was given, so there is a token and the identity has a part in addresses
    obtain ⟨hasToken, _, part, _, _, _, -, named, -, -⟩ := course.of_ok rfl
    have encoded := named.percentEncoded
    rw [ends_bind_iff] at ends
    rcases ends with ⟨_, _, shared, ends⟩ | ⟨failure, unshared, rfl⟩
    · obtain ⟨rfl, rfl⟩ := ends_pure_iff.mp ends
      obtain ⟨others, rest, told⟩ := Remote.ends_share hasToken encoded shared
      exact ⟨exchanged ++ others, exchanges.append rest, .shared course encoded told⟩
    · obtain ⟨others, rest, told⟩ := Remote.ends_share hasToken encoded unshared
      exact ⟨exchanged ++ others, exchanges.append rest, .unshared course encoded told⟩
  · obtain ⟨exchanged, exchanges, course⟩ := Remote.ends_publish unpublished
    exact ⟨exchanged, exchanges, .unpublished course⟩

/-! ## (3) Questions and answers -/

/-- Something that was asked of somebody outside, and what came back. -/
inductive Asked
  /-- The issuer of tokens was asked whose a token is. -/
  | inquiry (token : Text) (answer : Remote.Confirmation)
  /-- The model was asked a question. -/
  | question (call : Completion.Call) (answer : Completion.Answer)
  /-- A remote service was asked for something. -/
  | request (request : Remote.Request) (reply : Remote.Reply)

/-- What was asked, as it is entered in the log. -/
def Asked.call : Asked → Call
  | .inquiry token _ => .inquiry token
  | .question call _ => .question call
  | .request sent _ => .request sent

/-- Something exchanged with a remote service. -/
def Asked.ofExchange (exchange : Remote.Request × Remote.Reply) : Asked :=
  .request exchange.1 exchange.2

/-- Calls with the answers that those outside give to them: the issuer of tokens always the same,
the model its answers in order, and the remote services what stands in the session. -/
def answered (issuer : Remote.Confirmation) (answers : List Completion.Answer)
    (session : Session) : List Call → List Asked
  | [] => []
  | .inquiry token :: calls => .inquiry token issuer :: answered issuer answers session calls
  | .question call :: calls =>
    .question call (answers.headD .noChoices) :: answered issuer (answers.drop 1) session calls
  | .request request :: calls =>
    .request request (session.answer request).1 ::
      answered issuer answers (session.answer request).2 calls

/-- Calls with the answers that a world gives to them. -/
def World.answered (world : World) (calls : List Call) : List Asked :=
  Api.answered world.issuer world.answers (Work.session world) calls

/-- Requests are answered by the replies of the session. -/
theorem answered_map_request_iff {issuer : Remote.Confirmation}
    {answers : List Completion.Answer} {session : Session}
    {exchanged : List (Remote.Request × Remote.Reply)} :
    answered issuer answers session ((exchanged.map Asked.ofExchange).map Asked.call) =
        exchanged.map Asked.ofExchange ↔
      session.repliesTo (exchanged.map Prod.fst) = exchanged.map Prod.snd := by
  induction exchanged generalizing session with
  | nil => simp [answered]
  | cons exchange exchanged ih =>
      have first : answered issuer answers session
          (((exchange :: exchanged).map Asked.ofExchange).map Asked.call) =
          .request exchange.1 (session.answer exchange.1).1 :: answered issuer answers
            (session.answer exchange.1).2 ((exchanged.map Asked.ofExchange).map Asked.call) := rfl
      rw [first, List.map_cons, List.cons.injEq, ih, List.map_cons, List.map_cons,
        Session.repliesTo_cons, List.cons.injEq, Asked.ofExchange, Asked.request.injEq]
      simp

theorem map_call_ofExchange (exchanged : List (Remote.Request × Remote.Reply)) :
    (exchanged.map Asked.ofExchange).map Asked.call =
      exchanged.map (Call.request ∘ Prod.fst) := by
  rw [List.map_map]
  rfl

/-! ## (4) The whole work -/

/-- The markdown of an assignment. -/
def markdownOf (accepted : Reply.Accepted) : Text :=
  Outline.render Placeholders.usual accepted.record

/-- How far the work on a new assignment comes: what is asked and answered, how it ends, and what
the store is then. -/
inductive Creation (store : Store) (answer : Completion.Answer) (educator : Educator)
    (brief : Brief) : List Asked → Except Stop Web.Response → Store → Prop
  /-- There is no classroom for it. -/
  | unplaced {reason : Stop} (homeless : ∀ classroom, ¬Hosts store brief classroom) :
    Creation store answer educator brief [] (.error reason) store
  /-- The answer of the model is of no use. -/
  | unanswered {classroom : Classroom} {failure : Failure}
    (hosts : Hosts store brief classroom)
    (useless : (answer.text >>= Generation.ofAnswer) = .error failure) :
    Creation store answer educator brief [.question (Generation.question brief) answer]
      (.error (Stop.ofReply failure)) store
  /-- The document does not reach all students. -/
  | undistributed {classroom : Classroom} {accepted : Reply.Accepted} {failure : Failure}
    {exchanged : List (Remote.Request × Remote.Reply)}
    (hosts : Hosts store brief classroom)
    (answers : (answer.text >>= Generation.ofAnswer) = .ok accepted)
    (course : Distribution brief.title (markdownOf accepted) educator.token classroom.readers
      exchanged (.error failure)) :
    Creation store answer educator brief
      (.question (Generation.question brief) answer :: exchanged.map Asked.ofExchange)
      (.error (Stop.ofRemote failure)) store
  /-- It reaches them, but the assignment has a text that cannot be kept. -/
  | unkept {classroom : Classroom} {accepted : Reply.Accepted} {link : Link} {failure : Failure}
    {exchanged : List (Remote.Request × Remote.Reply)}
    (hosts : Hosts store brief classroom)
    (answers : (answer.text >>= Generation.ofAnswer) = .ok accepted)
    (course : Distribution brief.title (markdownOf accepted) educator.token classroom.readers
      exchanged (.ok link))
    (unfit : Store.checkTexts (newAssignment store.nextAssignment brief accepted.record
      (markdownOf accepted) link classroom educator).texts = .error failure) :
    Creation store answer educator brief
      (.question (Generation.question brief) answer :: exchanged.map Asked.ofExchange)
      (.error (.failed failure)) store
  /-- The assignment is kept. -/
  | kept {classroom : Classroom} {accepted : Reply.Accepted} {link : Link}
    {exchanged : List (Remote.Request × Remote.Reply)}
    (hosts : Hosts store brief classroom)
    (answers : (answer.text >>= Generation.ofAnswer) = .ok accepted)
    (course : Distribution brief.title (markdownOf accepted) educator.token classroom.readers
      exchanged (.ok link))
    (fit : Store.checkTexts (newAssignment store.nextAssignment brief accepted.record
      (markdownOf accepted) link classroom educator).texts = .ok ()) :
    Creation store answer educator brief
      (.question (Generation.question brief) answer :: exchanged.map Asked.ofExchange)
      (.ok (createdResponse (newAssignment store.nextAssignment brief accepted.record
        (markdownOf accepted) link classroom educator) accepted.noticed))
      (store.addAssignment (newAssignment store.nextAssignment brief accepted.record
        (markdownOf accepted) link classroom educator))

/-- How the work ends once there is an answer of use. -/
theorem creation_of_ends {educator : Educator} {brief : Brief} {classroom : Classroom}
    {accepted : Reply.Accepted} {answer : Completion.Answer} {world after : World}
    {result : Except Stop Web.Response}
    (ends : Ends (do
        let link ← publishFor brief.title (markdownOf accepted) classroom.readers educator
        let assignment := newAssignment (← get).store.nextAssignment brief accepted.record
          (markdownOf accepted) link classroom educator
        Work.ofOutcome (Store.checkTexts assignment.texts)
        Work.change (Store.addAssignment · assignment)
        return createdResponse assignment accepted.noticed) world result after)
    (hosts : Hosts world.store brief classroom)
    (answers : (answer.text >>= Generation.ofAnswer) = .ok accepted) :
    ∃ exchanged : List (Remote.Request × Remote.Reply),
      Creation world.store answer educator brief
        (.question (Generation.question brief) answer :: exchanged.map Asked.ofExchange) result
        after.store ∧
      (Work.session world).repliesTo (exchanged.map Prod.fst) = exchanged.map Prod.snd ∧
      after.log = world.log ++ exchanged.map (Call.request ∘ Prod.fst) := by
  rw [ends_bind_iff] at ends
  rcases ends with ⟨link, between, published, ends⟩ | ⟨reason, unpublished, rfl⟩
  · obtain ⟨exchanged, outcome, course, shared, replies, log, unchanged⟩ :=
      ends_publishFor published
    obtain rfl := Outcome.mapError_eq_ok_iff.mp shared.symm
    -- the row takes its number from the store, which publishing has left alone
    rw [ends_get_bind_iff, ends_bind_iff] at ends
    simp only [Work.ends_ofOutcome_iff, unchanged] at ends
    rcases ends with ⟨_, _, ⟨checked, rfl⟩, ends⟩ | ⟨reason, ⟨checked, rfl⟩, rfl⟩
    · have fit := Outcome.mapError_eq_ok_iff.mp checked.symm
      rw [ends_bind_iff] at ends
      simp only [Work.ends_change_iff, ends_pure_iff] at ends
      rcases ends with ⟨_, _, ⟨-, rfl⟩, rfl, rfl⟩ | ⟨reason, ⟨⟨⟩, -⟩, -⟩
      rw [unchanged]
      exact ⟨exchanged, .kept hosts answers course fit, replies, log⟩
    · obtain ⟨failure, unfit, rfl⟩ := Outcome.mapError_eq_error_iff.mp checked.symm
      rw [unchanged]
      exact ⟨exchanged, .unkept hosts answers course unfit, replies, log⟩
  · -- without a link there is no row to check
    obtain ⟨exchanged, outcome, course, unshared, replies, log, unchanged⟩ :=
      ends_publishFor unpublished
    obtain ⟨failure, rfl, rfl⟩ := Outcome.mapError_eq_error_iff.mp unshared.symm
    rw [unchanged]
    exact ⟨exchanged, .undistributed hosts answers course, replies, log⟩

/-- There is no other way for the work to end. -/
theorem ends_createAssignment {educator : Educator} {brief : Brief} {world after : World}
    {result : Except Stop Web.Response}
    (ends : Ends (createAssignment educator brief) world result after) :
    ∃ trace, Creation world.store (world.answers.headD .noChoices) educator brief trace result
        after.store ∧
      after.log = world.log ++ trace.map Asked.call ∧
      world.answered (trace.map Asked.call) = trace := by
  rw [createAssignment, ends_bind_iff] at ends
  rcases ends with ⟨classroom, between, placed, ends⟩ | ⟨reason, unplaced, rfl⟩
  · obtain ⟨unchanged, hosts⟩ := ends_classroomFor placed
    have hosts := (hosts classroom).mp rfl
    rw [unchanged, ends_bind_iff] at ends
    simp only [Work.ends_generate_iff] at ends
    rcases ends with ⟨accepted, _, ⟨answers, rfl⟩, ends⟩ | ⟨reason, ⟨useless, rfl⟩, rfl⟩
    · have answers := Outcome.mapError_eq_ok_iff.mp answers.symm
      obtain ⟨exchanged, course, replies, log⟩ := creation_of_ends ends hosts answers
      refine ⟨_, course, ?_, ?_⟩
      · rw [log, List.map_cons, map_call_ofExchange, List.append_assoc]
        rfl
      · exact congrArg (_ :: ·) (answered_map_request_iff.mpr replies)
    · obtain ⟨failure, failed, rfl⟩ := Outcome.mapError_eq_error_iff.mp useless.symm
      exact ⟨[_], .unanswered hosts failed, rfl, rfl⟩
  · obtain ⟨rfl, hosts⟩ := ends_classroomFor unplaced
    refine ⟨[], .unplaced fun classroom h => ?_, (List.append_nil _).symm, rfl⟩
    cases (hosts classroom).mpr h

end Coursework.Api
