import Coursework.Proofs.Api.Writing
import Coursework.Proofs.Assignment.Taxonomy

/-! # Replies that are not accepted

A reply of the model that describes no assignment is rejected for one of five kinds of causes, and
a request for which the model gave it is answered with the status 422. There are two exceptions: a
reply with a numeral that has more digits than are read is not rejected but fails, and a rejected
reply with a surrogate is shown by an answer that cannot be written. The status is 500 then.

* **`status_conclude_ofReply`** is the status for what becomes of a reply.
* **`status_of_reply`** is the statement about replies and requests. -/

namespace Coursework

/-! ## (1) The same reply in an answer -/

namespace Generation

open Reply

/-- A blank reply is read as nothing. -/
theorem read_unfence_of_blank {reply : Text} (blank : reply.strip = []) :
    Json.read (unfence reply) = .error (.malformed .value 0) := by
  rw [← unfence_strip, blank]
  exact read_nil

/-- A reply is judged without the white space around it. -/
theorem judged_ofAnswer (reply : Text) : Judged reply (ofAnswer reply) := by
  rw [ofAnswer]
  split
  · rename_i blank
    have blank := List.isEmpty_iff.mp blank
    have plain := Text.hasSurrogate_strip reply
    have short : ¬Overlong reply :=
      not_overlong_of_read (read_unfence_of_blank blank) (by rintro _ ⟨⟩) (by rintro _ ⟨⟩)
    exact .rejected short isPlain_empty plain
  · have overlong : Overlong reply.strip ↔ Overlong reply := by
      constructor <;> rintro (long | ⟨read, long⟩)
      · exact .numeral (unfence_strip reply ▸ long)
      · exact .count (unfence_strip reply ▸ read) long
      · exact .numeral (unfence_strip reply ▸ long)
      · exact .count (unfence_strip reply ▸ read) long
    have judged := judged_validate reply.strip
    generalize validate (.text reply.strip) = outcome at judged
    cases judged with
    | accepted read => exact .accepted (overlong.not.mp read)
    | rejected read plain shown =>
        exact .rejected (overlong.not.mp read) plain (shown.trans (Text.hasSurrogate_strip reply))
    | overlong long => exact .overlong (overlong.mp long)

/-- It is accepted with that white space or without. -/
theorem ofAnswer_eq_ok_iff {reply : Text} {accepted : Accepted} :
    ofAnswer reply = .ok accepted ↔ validate (.text reply) = .ok accepted := by
  have same {fields expected listed} : Answers (.text reply.strip) fields expected listed ↔
      Answers (.text reply) fields expected listed := by
    constructor
    · rintro ⟨⟨_, ⟨⟩, read⟩, describes⟩
      exact ⟨⟨reply, rfl, unfence_strip reply ▸ read⟩, describes⟩
    · rintro ⟨⟨_, ⟨⟩, read⟩, describes⟩
      exact ⟨⟨reply.strip, rfl, (unfence_strip reply).symm ▸ read⟩, describes⟩
  rw [ofAnswer]
  split
  · rename_i blank
    rw [validate_eq_ok_iff]
    constructor
    · intro h
      cases h
    · rintro ⟨fields, expected, listed, ⟨⟨_, ⟨⟩, read⟩, -⟩, -⟩
      cases (read_unfence_of_blank (List.isEmpty_iff.mp blank)).symm.trans read
  · simp only [validate_eq_ok_iff, same]

end Generation

namespace Api

open Reply (Judged Overlong IsPlain)

/-! ## (2) The report of a rejection -/

/-- What a report shows. -/
theorem toJson_report (cause : Rejection.Cause) (source : Text) :
    (Rejection.report ⟨cause, .text source⟩).toJson =
      .object (("kind", .text cause.kind.name) :: ("message", .text cause.message) ::
        ("raw_text", .text source) :: (Rejection.report ⟨cause, .text source⟩).more) := rfl

/-- The report of a rejection is as plain as the text that it shows. -/
theorem isPlain_report {cause : Rejection.Cause} (plain : IsPlain cause) (source : Text) :
    (Rejection.report ⟨cause, .text source⟩).toJson.isPlain = !source.hasSurrogate := by
  have kinds (kind : Rejection.Kind) : kind.name.hasSurrogate = false := by
    cases kind <;> decide
  have more : Json.havePlain (Rejection.report ⟨cause, .text source⟩).more = true := by
    cases cause with
    | missing names =>
        simpa +decide [Rejection.report, Json.havePlain, Json.arePlain_eq_true_iff]
          using plain.names names rfl
    | deficit expected actual => simp +decide [Rejection.report, Json.havePlain]
    | empty | malformed _ _ _ | notObject _ | invalid _ _ => rfl
  have names : Text.hasSurrogate "kind" = false ∧ Text.hasSurrogate "message" = false ∧
      Text.hasSurrogate "raw_text" = false := by decide
  simp [toJson_report, Json.havePlain, more, kinds, plain.message, names]

theorem isFinite_report (cause : Rejection.Cause) (source : Text) :
    (Rejection.report ⟨cause, .text source⟩).toJson.isFinite = true := by
  have more : Json.haveFinite (Rejection.report ⟨cause, .text source⟩).more = true := by
    cases cause with
    | missing names =>
        have listed := Json.isFinite_texts names
        rw [Json.texts, Json.isFinite] at listed
        simp [Rejection.report, Json.isFinite, Json.haveFinite, listed]
    | empty | malformed _ _ _ | notObject _ | invalid _ _ | deficit _ _ =>
        simp [Rejection.report, Json.isFinite, Json.haveFinite]
  simp [toJson_report, Json.isFinite, Json.haveFinite, more]

/-- A rejection is answered with the status 422 unless the text that it shows has a surrogate. -/
theorem status_conclude_rejected (request : Web.Request) {cause : Rejection.Cause}
    (plain : IsPlain cause) (source : Text) :
    (conclude request (.error (.refused (.rejected ⟨cause, .text source⟩)))).status =
      if source.hasSurrogate then 500 else 422 := by
  have writable : checkWritable (.object [("detail",
      (Rejection.report ⟨cause, .text source⟩).toJson)]) = .ok () ↔
        source.hasSurrogate = false := by
    rw [checkWritable_eq_ok_iff, ← Bool.not_eq_true', ← isPlain_report plain source]
    simp +decide [Json.isFinite, Json.haveFinite, Json.havePlain, isFinite_report]
  rw [conclude]
  cases written : Refusal.response (.rejected ⟨cause, .text source⟩) with
  | error failure =>
      have surrogate : source.hasSurrogate = true := by
        rw [← Bool.not_eq_false]
        intro plain
        rw [Refusal.response] at written
        rcases Outcome.bind_eq_error_iff.mp written with h | ⟨_, -, ⟨⟩⟩
        cases (writable.mpr plain).symm.trans h
      rw [if_pos surrogate]
      exact status_failureResponse failure
  | ok response =>
      obtain ⟨_, fits, h⟩ := Outcome.bind_eq_ok_iff.mp written
      obtain rfl := Except.ok.inj h
      rw [writable.mp fits]
      rfl

/-! ## (3) The answer to a request -/

/-- The status for a reply that is not accepted. -/
theorem status_conclude_ofReply (request : Web.Request) {reply : Text} {failure : Failure}
    (judged : Judged reply (.error failure)) :
    ((conclude request (.error (Stop.ofReply failure))).status = 422 ↔
        ¬Overlong reply ∧ reply.hasSurrogate = false) ∧
      ((conclude request (.error (Stop.ofReply failure))).status = 500 ↔
        Overlong reply ∨ reply.hasSurrogate = true) := by
  cases judged with
  | @rejected cause source read plain shown =>
      have status : (conclude request (.error (Stop.ofReply
          (.rejected ⟨cause, .text source⟩)))).status = if reply.hasSurrogate then 500 else 422 :=
        shown ▸ status_conclude_rejected request plain source
      rw [status]
      cases reply.hasSurrogate <;> simp [read]
  | @overlong digits long =>
      have status : (conclude request (.error (Stop.ofReply (.longNumeral digits)))).status =
          500 := status_failureResponse _
      rw [status]
      simp [long]

/-- A reply is accepted, or rejected for a cause of one of the five kinds, exactly if no numeral
in it has more digits than are read. Where it is not accepted, a request for which the model gave
it is answered with the status 422 if moreover the reply is plain, and otherwise with 500. -/
theorem status_of_reply (reply : Text) :
    ((∃ accepted, Reply.validate (.text reply) = .ok accepted) ∨
        (∃ rejection, Reply.validate (.text reply) = .error (.rejected rejection) ∧
          rejection.cause.kind ≠ .general) ↔
      ¬Overlong reply) ∧
    ∀ (request : Web.Request) (world : World) (educator : Remote.Educator) (brief : Brief)
      (classroom : Classroom), Creates request → Admits world request educator →
      Gives request Brief.ofFields brief → Hosts world.store brief classroom →
      world.answers.headD .noChoices = .content (some reply) →
      (∀ accepted, Reply.validate (.text reply) ≠ .ok accepted) →
        ((answer request world).1.status = 422 ↔
          ¬Overlong reply ∧ reply.hasSurrogate = false) ∧
        ((answer request world).1.status = 500 ↔
          Overlong reply ∨ reply.hasSurrogate = true) := by
  constructor
  · exact Reply.accepted_or_rejected_iff reply
  · intro request world educator brief classroom creates admits gives hosts answered unaccepted
    obtain ⟨result, ends, concluded⟩ := creates.ends world
    rw [concluded]
    obtain ⟨trace, course, -, -⟩ := ends_createAssignment (ends_of_gives admits gives ends)
    -- the work stops at the answer of the model
    have failed : ∃ failure, Generation.ofAnswer reply = .error failure ∧
        result = .error (Stop.ofReply failure) := by
      generalize (answer request world).2.store = next at course
      change Creation world.store (world.answers.headD .noChoices) educator brief trace result
        next at course
      rw [answered] at course
      have unaccepted {accepted : Reply.Accepted}
          (answers : (Completion.Answer.text (.content (some reply)) >>= Generation.ofAnswer) =
            .ok accepted) : False :=
        unaccepted accepted (Generation.ofAnswer_eq_ok_iff.mp answers)
      -- with a classroom the model is asked, and beyond its answer nothing is reached
      cases course with
      | unplaced homeless => exact absurd hosts (homeless classroom)
      | unanswered _ useless => exact ⟨_, useless, rfl⟩
      | undistributed _ answers | unkept _ answers | kept _ answers =>
          exact (unaccepted answers).elim
    obtain ⟨failure, useless, rfl⟩ := failed
    exact status_conclude_ofReply request (useless ▸ Generation.judged_ofAnswer reply)

/-- What the request of the sample gives. -/
theorem gives_sampleRequest : Gives sampleRequest Brief.ofFields
    { title := "A", subject := "B", classroom := 1, deadline := "C" } := by
  let fields : Form.Fields :=
    [("title", .text "A"), ("subject", .text "B"), ("classroomId", .int 1),
      ("deadline", .text "C")]
  have body : readBody sampleRequest = pure (.object fields) := by
    have read : Json.read (Remote.withoutMark sampleRequest.text) = .ok (.object fields) := by
      cbv
    rw [readBody, if_neg (by decide), if_pos (by decide +kernel)]
    simp only [read]
  exact ⟨.object fields, fun _ => body ▸ ends_pure_iff.mpr ⟨rfl, rfl⟩, by decide +kernel⟩

/-- A reply that is no JSON leads to the status 422. -/
theorem status_of_reply_malformed :
    Admits { sampleWorld with answers := [.content (some "x")] } sampleRequest ⟨"e@b.co", "t"⟩ ∧
      (∀ accepted, Reply.validate (.text "x") ≠ .ok accepted) ∧
      (answer sampleRequest { sampleWorld with answers := [.content (some "x")] }).1.status =
        422 := by
  have admits : Admits { sampleWorld with answers := [.content (some "x")] } sampleRequest
      ⟨"e@b.co", "t"⟩ := ⟨"t", by decide +kernel, by cbv⟩
  have read : Json.read (Reply.unfence "x") = .error (.malformed .value 1) := by cbv
  have short : ¬Overlong "x" :=
    Reply.not_overlong_of_read read (by rintro _ ⟨⟩) (by rintro _ ⟨⟩)
  have unaccepted : ∀ accepted, Reply.validate (.text "x") ≠ .ok accepted := by
    intro accepted h
    obtain ⟨fields, _, _, ⟨⟨_, ⟨⟩, object⟩, -⟩, -⟩ := Reply.validate_eq_ok_iff.mp h
    cases read.symm.trans object
  have hosts : Hosts sampleWorld.store
      { title := "A", subject := "B", classroom := 1, deadline := "C" } sampleClassroom :=
    ⟨by cbv, by decide⟩
  refine ⟨admits, unaccepted, ?_⟩
  exact ((status_of_reply "x").2 sampleRequest _ _ _ _ creates_sampleRequest admits
    gives_sampleRequest hosts rfl unaccepted).1.mpr ⟨short, by decide⟩

/-- A reply that is a numeral of 4301 digits is neither accepted nor rejected. -/
theorem not_accepted_or_rejected_digits :
    ¬((∃ accepted, Reply.validate (.text (List.replicate 4301 49)) = .ok accepted) ∨
      ∃ rejection, Reply.validate (.text (List.replicate 4301 49)) = .error (.rejected rejection) ∧
        rejection.cause.kind ≠ .general) := by
  have digits (count : Nat) : ∀ digit ∈ List.replicate count 49, Sign.isDigit digit = true := by
    intro digit member
    rw [List.eq_of_mem_replicate member]
    rfl
  have long : Overlong (List.replicate 4301 49) :=
    Reply.overlong_of_digits (by decide) (digits 4301) List.length_replicate.ge
  rw [Reply.accepted_or_rejected_iff]
  exact not_not_intro long

end Api

end Coursework
