import Coursework.Proofs.Remote.Publication
import Coursework.Remote.Mailing

/-! # Messages that are sent

A message is sent by one request with its written form. One without recipient or without a
written form is not sent, and the work stops there as it does at a reply that says nothing.

* **`Attempt`** is what becomes of one message, **`ends_send`** shows that there is no other way.
* **`Telling`** lists how far telling people one after another comes. -/

namespace Coursework.Remote

/-! ## (1) One message -/

/-- The request that sends the written form of a message. -/
def mailing (raw : Text) : Request :=
  ⟨"https://gmail.googleapis.com/gmail/v1/users/me/messages/send?alt=json",
    .object [("raw", .text raw)]⟩

theorem address_mailing (raw : Text) : (mailing raw).address = mailAddress := rfl

/-- A message can be sent: it has a recipient, and this is its written form. -/
def Writes (message : Mail.Message) (raw : Text) : Prop :=
  Text.isBlank message.recipient = false ∧ message.raw = .ok raw

/-- What becomes of a message to somebody. -/
structure Attempt where
  /-- Whom it is for. -/
  student : Text
  /-- The request and its reply, if it comes to that. -/
  exchanged : Option (Request × Reply)

namespace Attempt

/-- A message is attempted: its written form is sent if it has one. -/
inductive Made (message : Mail.Message) : Attempt → Prop
  /-- It is sent. -/
  | sent {raw : Text} {reply : Reply} (writes : Writes message raw) :
    Made message ⟨message.recipient, some (mailing raw, reply)⟩
  /-- It cannot be sent. -/
  | unwritten (unfit : ∀ raw, ¬Writes message raw) : Made message ⟨message.recipient, none⟩

/-- An attempt succeeds: the reply says something. -/
def Succeeds (attempt : Attempt) : Prop :=
  ∃ exchange value, attempt.exchanged = some exchange ∧ exchange.2.Says value

theorem not_succeeds_none (student : Text) : ¬Succeeds ⟨student, none⟩ := by
  rintro ⟨exchange, value, h, -⟩
  cases h

theorem succeeds_some_iff {student : Text} {request : Request} {reply : Reply} :
    Succeeds ⟨student, some (request, reply)⟩ ↔ ∃ value, reply.Says value := by
  constructor
  · rintro ⟨_, value, ⟨⟩, said⟩
    exact ⟨value, said⟩
  · rintro ⟨value, said⟩
    exact ⟨_, value, rfl, said⟩

theorem Made.student {message : Mail.Message} {attempt : Attempt} (made : attempt.Made message) :
    attempt.student = message.recipient := by
  cases made <;> rfl

/-- Only a message that can be sent succeeds. -/
theorem Made.exists_writes {message : Mail.Message} {attempt : Attempt}
    (made : attempt.Made message) (succeeds : attempt.Succeeds) : ∃ raw, Writes message raw := by
  cases made with
  | sent writes => exact ⟨_, writes⟩
  | unwritten unfit => exact absurd succeeds (not_succeeds_none _)

end Attempt

section Send

variable {message : Mail.Message} {access : Access} {session after : Session}

/-- A message without a written form is not sent. -/
theorem ends_send_unwritten {result : Outcome Json} (unfit : ∀ raw, ¬Writes message raw)
    (hasToken : access.token ≠ [])
    (ends : Ends (send message access) session result after) :
    session.Exchanges [] after ∧ ∃ failure, result = .error failure := by
  rw [send] at ends
  cases blank : Text.isBlank message.recipient with
  | true =>
      rw [blank, if_pos rfl] at ends
      have stopped : Ends (throw .missingRecipient : Exchange PUnit) session
          (.error .missingRecipient) session := ends_throw_iff.mpr ⟨rfl, rfl⟩
      obtain ⟨rfl, rfl⟩ := ends.unique stopped.bind_error
      exact ⟨.refl, _, rfl⟩
  | false =>
      obtain ⟨opened, hopened⟩ := Access.ends_open hasToken .mail session
      rw [blank, if_neg (by decide), hopened.bind_iff, ends_bind_iff] at ends
      simp only [Exchange.ends_ofOutcome_iff] at ends
      rcases ends with ⟨raw, _, ⟨written, -⟩, -⟩ | ⟨failure, ⟨-, rfl⟩, rfl⟩
      · exact absurd ⟨blank, written.symm⟩ (unfit raw)
      · exact ⟨Session.exchanges_opened, _, rfl⟩

/-- One with a written form is sent once, and the reply judged. -/
theorem ends_send_written {raw : Text} {result : Outcome Json} (writes : Writes message raw)
    (hasToken : access.token ≠ [])
    (ends : Ends (send message access) session result after) :
    ∃ reply, session.Exchanges [(mailing raw, reply)] after ∧
      ((∃ value, result = .ok value) ↔ ∃ value, reply.Says value) := by
  obtain ⟨addressed, written⟩ := writes
  obtain ⟨opened, hopened⟩ := Access.ends_open hasToken .mail session
  have composed : Ends (Exchange.ofOutcome message.raw) { session with opened } (.ok raw)
      { session with opened } := Exchange.ends_ofOutcome_iff.mpr ⟨written.symm, rfl⟩
  rw [send, addressed, if_neg (by decide), hopened.bind_iff, composed.bind_iff,
    ends_call_iff] at ends
  obtain ⟨rfl, rfl⟩ := ends
  refine ⟨_, Session.exchanges_opened.append Session.exchanges_answer, ?_⟩
  simp only [judge_eq_ok_iff]
  rfl

/-- There is no other way for sending a message to end. -/
theorem ends_send {result : Outcome Json} (hasToken : access.token ≠ [])
    (ends : Ends (send message access) session result after) :
    ∃ attempt : Attempt, attempt.Made message ∧
      session.Exchanges attempt.exchanged.toList after ∧
      ((∃ value, result = .ok value) ↔ attempt.Succeeds) := by
  by_cases fit : ∃ raw, Writes message raw
  · obtain ⟨raw, writes⟩ := fit
    obtain ⟨reply, exchanges, judged⟩ := ends_send_written writes hasToken ends
    exact ⟨_, .sent writes, exchanges, judged.trans Attempt.succeeds_some_iff.symm⟩
  · have unfit : ∀ raw, ¬Writes message raw := not_exists.mp fit
    obtain ⟨exchanges, failure, rfl⟩ := ends_send_unwritten unfit hasToken ends
    refine ⟨_, .unwritten unfit, exchanges, iff_of_false ?_ (Attempt.not_succeeds_none _)⟩
    rintro ⟨value, h⟩
    cases h

end Send

/-! ## (2) One after another -/

/-- How far telling people comes who each get a message of their own: what becomes of the
messages, and how it ends. -/
inductive Telling (notice : Text → Mail.Message) : List Text → List Attempt → Outcome Unit → Prop
  /-- There is nobody else. -/
  | done : Telling notice [] [] (.ok ())
  /-- An attempt fails. -/
  | stopped {student : Text} {students : List Text} {attempt : Attempt} {failure : Failure}
    (made : attempt.Made (notice student)) (fails : ¬attempt.Succeeds) :
    Telling notice (student :: students) [attempt] (.error failure)
  /-- It succeeds, and the others follow. -/
  | told {student : Text} {students : List Text} {attempt : Attempt} {attempts : List Attempt}
    {result : Outcome Unit} (made : attempt.Made (notice student)) (succeeds : attempt.Succeeds)
    (rest : Telling notice students attempts result) :
    Telling notice (student :: students) (attempt :: attempts) result

/-- What was exchanged in attempts. -/
def exchangedIn (attempts : List Attempt) : List (Request × Reply) :=
  attempts.filterMap Attempt.exchanged

theorem exchangedIn_cons (attempt : Attempt) (attempts : List Attempt) :
    exchangedIn (attempt :: attempts) = attempt.exchanged.toList ++ exchangedIn attempts := by
  rw [exchangedIn, List.filterMap_cons]
  cases attempt.exchanged <;> rfl

namespace Telling

variable {notice : Text → Mail.Message} {students : List Text} {attempts : List Attempt}
  {result : Outcome Unit}

/-- Every attempt is made with the message of its recipient. -/
theorem made (course : Telling notice students attempts result)
    (own : ∀ student, (notice student).recipient = student) :
    ∀ attempt ∈ attempts, attempt.Made (notice attempt.student) := by
  induction course with
  | done => simp
  | stopped made _ =>
      rw [List.forall_mem_singleton, made.student, own]
      exact made
  | told made _ _ ih =>
      rw [List.forall_mem_cons, made.student, own]
      exact ⟨made, ih⟩

/-- The recipients are told in order. -/
theorem isPrefix (course : Telling notice students attempts result)
    (own : ∀ student, (notice student).recipient = student) :
    attempts.map Attempt.student <+: students := by
  induction course with
  | done => exact List.prefix_refl []
  | stopped made _ =>
      rw [List.map_singleton, made.student, own]
      exact ⟨_, rfl⟩
  | told made _ _ ih =>
      rw [List.map_cons, made.student, own]
      exact (List.prefix_cons_inj _).mpr ih

/-- Every attempt before the last succeeds. -/
theorem succeeds (course : Telling notice students attempts result) :
    ∀ attempt ∈ attempts.dropLast, attempt.Succeeds := by
  induction course with
  | done => simp
  | stopped _ _ => simp
  | @told student students attempt attempts result made succeeds rest ih =>
      cases attempts with
      | nil => simp
      | cons next attempts =>
          rw [List.dropLast_cons_cons, List.forall_mem_cons]
          exact ⟨succeeds, ih⟩

/-- The work comes to its end exactly if all are told and every attempt succeeds; otherwise the
last one failed. -/
theorem complete (course : Telling notice students attempts result)
    (own : ∀ student, (notice student).recipient = student) (ok : result = .ok ()) :
    attempts.map Attempt.student = students ∧ ∀ attempt ∈ attempts, attempt.Succeeds := by
  induction course with
  | done => simp
  | stopped _ _ => cases ok
  | told made succeeds _ ih =>
      obtain ⟨told, others⟩ := ih ok
      rw [List.map_cons, made.student, own, told, List.forall_mem_cons]
      exact ⟨rfl, succeeds, others⟩

theorem exists_last_of_error (course : Telling notice students attempts result)
    {failure : Failure} (stopped : result = .error failure) :
    ∃ attempt, attempts.getLast? = some attempt ∧ ¬attempt.Succeeds := by
  induction course with
  | done => cases stopped
  | @stopped _ _ attempt _ _ fails => exact ⟨attempt, rfl, fails⟩
  | told _ _ _ ih =>
      obtain ⟨attempt, last, fails⟩ := ih stopped
      refine ⟨attempt, ?_, fails⟩
      rw [List.getLast?_cons, last]
      rfl

/-- What is exchanged is written messages and the replies to them. -/
theorem exists_mailings (course : Telling notice students attempts result) :
    ∃ raws : List Text, (exchangedIn attempts).map Prod.fst = raws.map mailing := by
  have sent : ∀ {attempt : Attempt} {message : Mail.Message}, attempt.Made message →
      ∃ raws : List Text, attempt.exchanged.toList.map Prod.fst = raws.map mailing := fun made => by
    cases made with
    | @sent raw reply writes => exact ⟨[raw], rfl⟩
    | unwritten unfit => exact ⟨[], rfl⟩
  induction course with
  | done => exact ⟨[], rfl⟩
  | stopped made _ =>
      obtain ⟨raws, h⟩ := sent made
      refine ⟨raws, ?_⟩
      rw [exchangedIn_cons, List.map_append, h]
      exact List.append_nil _
  | told made _ _ ih =>
      obtain ⟨raws, h⟩ := sent made
      obtain ⟨more, others⟩ := ih
      refine ⟨raws ++ more, ?_⟩
      rw [exchangedIn_cons, List.map_append, List.map_append, h, others]

/-- Where every reply says something, the work comes to its end exactly if every message can be
sent. -/
theorem result_eq_ok_iff (course : Telling notice students attempts result)
    (said : ∀ exchange ∈ exchangedIn attempts, ∃ value, exchange.2.Says value) :
    result = .ok () ↔ ∀ student ∈ students, ∃ raw, Writes (notice student) raw := by
  induction course with
  | done => simp
  | @stopped student students attempt failure made fails =>
      refine iff_of_false (by rintro ⟨⟩) fun fit => ?_
      obtain ⟨raw, writes⟩ := fit student List.mem_cons_self
      -- a message that can be sent fails by its reply only
      cases made with
      | sent _ => exact fails (Attempt.succeeds_some_iff.mpr (said _ List.mem_cons_self))
      | unwritten unfit => exact unfit raw writes
  | told made succeeds _ ih =>
      rw [exchangedIn_cons, List.forall_mem_append] at said
      rw [ih said.2, List.forall_mem_cons]
      exact ⟨fun others => ⟨made.exists_writes succeeds, others⟩, fun all => all.2⟩

end Telling

/-- There is no other way for telling people one after another to end. -/
theorem ends_forM_send {notice : Text → Mail.Message} {access : Access} {session after : Session}
    {students : List Text} {result : Outcome Unit} (hasToken : access.token ≠ [])
    (ends : Ends (students.forM fun student => do
      let _ ← send (notice student) access : Exchange Unit) session result after) :
    ∃ attempts, session.Exchanges (exchangedIn attempts) after ∧
      Telling notice students attempts result := by
  induction students generalizing session with
  | nil =>
      obtain ⟨rfl, rfl⟩ := ends_pure_iff.mp ends
      exact ⟨[], .refl, .done⟩
  | cons student students ih =>
      rw [List.forM, ends_bind_iff] at ends
      rcases ends with ⟨_, between, told, ends⟩ | ⟨failure, stopped, rfl⟩
      · rw [ends_bind_iff] at told
        rcases told with ⟨value, _, sent, told⟩ | ⟨_, -, ⟨⟩⟩
        obtain ⟨-, rfl⟩ := ends_pure_iff.mp told
        obtain ⟨attempt, made, exchanges, judged⟩ := ends_send hasToken sent
        obtain ⟨attempts, others, course⟩ := ih ends
        refine ⟨attempt :: attempts, ?_, .told made (judged.mp ⟨value, rfl⟩) course⟩
        rw [exchangedIn_cons]
        exact exchanges.append others
      · rw [ends_bind_iff] at stopped
        rcases stopped with ⟨_, _, -, told⟩ | ⟨_, unsent, ⟨⟩⟩
        · cases (ends_pure_iff.mp told).1
        obtain ⟨attempt, made, exchanges, judged⟩ := ends_send hasToken unsent
        refine ⟨[attempt], ?_, .stopped made fun succeeds => ?_⟩
        · rw [exchangedIn_cons]
          exact exchanges.append .refl
        · obtain ⟨_, h⟩ := judged.mpr succeeds
          cases h

end Coursework.Remote
