import Coursework.Proofs.Api.Marking
import Coursework.Proofs.Api.Reads
import Coursework.Proofs.Mailbox.Ordinary

/-! # Which assignments can be approved

An assignment is added without a look at the messages that tell of its approval. Where the mail
service takes every message, the approval goes through exactly if each message can be written: a
title of several lines is in the way for ever, and so can be the frame of an encoded word.

* **`Remote.Session.TakesMail`** says that every message is taken.
* **`Unframed`** are the rows in whose messages no encoded word ends.
* **`Approvable`** is what becomes of an approval, **`approvable_of_run`** the statement. -/

namespace Coursework

/-- Every reply to a message says something. -/
def Remote.Session.TakesMail (session : Remote.Session) : Prop :=
  ∀ raws : List Text, ∀ reply ∈ session.repliesTo (raws.map Remote.mailing),
    ∃ value, reply.Says value

namespace Api

open Mail (IsOrdinary hasSeveralLines)
open Mail.EncodedWord (Endless)
open Remote (Attempt Educator Telling exchangedIn Writes)

/-! ## (1) The texts of a row -/

/-- Behind every run, title, subject and link of a row have no surrogates. -/
theorem plain_of_run {history : List Served} {store : Store} (run : Run history store)
    {row : Assignment} (member : row ∈ store.assignments) :
    row.title.hasSurrogate = false ∧ row.subject.hasSurrogate = false ∧
      ∀ link ∈ row.link, link.hasSurrogate = false := by
  have plain := (writable_of_run run).assignments row member
  rw [shownAssignment, Json.isPlain_finite] at plain
  simp only [Json.isPlain_object, Json.havePlain, Assignment.shownColumns, Bool.and_eq_true,
    Bool.not_eq_true', Json.isPlain_text, Json.isPlain_textOrNull] at plain
  obtain ⟨-, -, -, ⟨-, title⟩, ⟨-, subject⟩, -, -, -, -, -, -, -, -, -, ⟨-, link⟩, -⟩ := plain
  exact ⟨title, subject, link⟩

/-- Its students have ordinary addresses. -/
theorem isOrdinary_student {history : List Served} {store : Store} (run : Run history store)
    {row : Assignment} (member : row ∈ store.assignments) :
    ∀ student ∈ row.students, IsOrdinary student := by
  obtain ⟨classroom, placed, readers⟩ := (sound_of_run run row member).exists_classroom
  obtain ⟨-, found⟩ := Store.findClassroom_eq_ok_iff.mp placed
  intro student reads
  obtain ⟨value, read⟩ := run.reachable.exists_mailbox classroom
    (List.mem_of_find?_eq_some found) student (readers ▸ reads)
  exact Form.isOrdinary_mailbox read

/-! ## (2) The message to a student -/

theorem hasSurrogate_approvalNotice {subject link : Text} (plain : subject.hasSurrogate = false)
    (linked : link.hasSurrogate = false) :
    (Mail.approvalNotice subject link).hasSurrogate = false := by
  simp only [Mail.approvalNotice, Text.hasSurrogate_append, plain, linked]
  decide +kernel

/-- What stands before the title. -/
def noticeStart : Text := "New Assignment Approved: "

/-- Behind the start of a subject, no frame ends that does not end in the title. -/
theorem endless_noticeStart {title : Text} (endless : Endless title) :
    Endless (noticeStart ++ title) :=
  Mail.endless_append (by decide) endless

/-- The subject has as many lines as the title. -/
theorem hasSeveralLines_noticeStart (title : Text) :
    hasSeveralLines (noticeStart ++ title) = hasSeveralLines title :=
  Mail.hasSeveralLines_append (by decide) title

/-- A row in whose messages no encoded word ends: there is no `?=` in its title and in the
addresses of its students. -/
structure Unframed (row : Assignment) : Prop where
  /-- The title is made of code points. -/
  codes : ∀ sign ∈ row.title, sign < 0x110000
  /-- None ends in the title. -/
  title : Endless row.title
  /-- Nor in an address. -/
  students : ∀ student ∈ row.students, Endless student

section Notice

variable {history : List Served} {store : Store} {educator : Educator} {row : Assignment}

theorem isBlank_of_isOrdinary {address : Text} (ordinary : IsOrdinary address) :
    Text.isBlank address = false := by
  obtain ⟨⟨user, host, -, -, rfl⟩, -, -⟩ := ordinary
  refine Bool.eq_false_iff.mpr fun blank => ?_
  have atSign : Sign.atSign ∈ Mail.joined user host := by
    rw [Mail.joined, List.mem_append, List.mem_cons]
    exact .inr (.inl rfl)
  have := List.all_eq_true.mp blank _ atSign
  revert this
  decide

/-- No message can be written about a title of several lines. -/
theorem oneLine_of_writes {student raw : Text}
    (writes : Writes (noticeFor educator row student) raw) :
    hasSeveralLines row.title = false :=
  (hasSeveralLines_noticeStart row.title).symm.trans (Mail.Message.oneLine_of_raw writes.2)

/-- About a title of one line every message can be written in which no encoded word ends. -/
theorem exists_writes (run : Run history store) (member : row ∈ store.assignments)
    (ordinary : IsOrdinary educator.email ∧ Endless educator.email) (unframed : Unframed row)
    (oneLine : hasSeveralLines row.title = false) :
    ∀ student ∈ row.students, ∃ raw, Writes (noticeFor educator row student) raw := by
  intro student reads
  obtain ⟨title, subject, link⟩ := plain_of_run run member
  have address := isOrdinary_student run member student reads
  have linked : (row.link.getD []).hasSurrogate = false := by
    cases h : row.link with
    | none => rfl
    | some given => exact link given h
  have start : Text.IsScalar noticeStart := Text.isScalar_of_forall_lt (by decide)
  have scalar : Text.IsScalar (noticeStart ++ row.title) :=
    Text.isScalar_append.mpr ⟨start, Text.isScalar_of_hasSurrogate title unframed.codes⟩
  have fit : (∃ raw, (noticeFor educator row student).raw = .ok raw) ↔
      hasSeveralLines (noticeStart ++ row.title) = false :=
    Mail.Message.exists_raw_iff ordinary ⟨address, unframed.students student reads⟩
      (List.append_ne_nil_of_left_ne_nil (by decide) _) scalar
      (endless_noticeStart unframed.title) (hasSurrogate_approvalNotice subject linked)
  obtain ⟨raw, written⟩ := fit.mpr ((hasSeveralLines_noticeStart row.title).trans oneLine)
  exact ⟨raw, isBlank_of_isOrdinary address, written⟩

end Notice

/-! ## (3) Approvals -/

/-- What becomes of the approval of a row by an educator, where every message is taken. -/
structure Approvable (served : Served) (educator : Educator) (row : Assignment) : Prop where
  /-- It goes through exactly if the number of the row has at most 64 bits and the message to
  every student can be written. -/
  exact : served.response.status = 200 ↔ Form.fitsWord row.id = true ∧
    ∀ student ∈ row.students, ∃ raw, Writes (noticeFor educator row student) raw
  /-- Where no encoded word ends in the messages, it goes through exactly if the title has one
  line. -/
  oneLine : Form.fitsWord row.id = true → Unframed row →
    (served.response.status = 200 ↔ hasSeveralLines row.title = false)
  /-- It never goes through if the title has several. -/
  stuck : hasSeveralLines row.title = true → served.response.status ≠ 200
  /-- Then the row is approved, and nothing else is changed. -/
  marked : served.response.status = 200 → ∃ earlier later,
    served.world.store.assignments = earlier ++ row :: later ∧
      served.after.store = { served.world.store with
        assignments := earlier ++ { row with status := .approved } :: later }
  /-- Otherwise nothing is changed. -/
  otherwise : served.response.status ≠ 200 → served.after.store = served.world.store

/-- What is exchanged where every message is taken says something. -/
theorem says_of_takesMail {world : World} {notice : Text → Mail.Message} {students : List Text}
    {attempts : List Attempt} {result : Outcome Unit} (takes : (Work.session world).TakesMail)
    (course : Telling notice students attempts result)
    (replies : (Work.session world).repliesTo ((exchangedIn attempts).map Prod.fst) =
      (exchangedIn attempts).map Prod.snd) :
    ∀ exchange ∈ exchangedIn attempts, ∃ value, exchange.2.Says value := by
  obtain ⟨raws, mailings⟩ := course.exists_mailings
  rw [mailings] at replies
  intro exchange member
  exact takes raws exchange.2 (replies ▸ List.mem_map_of_mem member)

/-- Behind every run, and where every message is taken, the approval of a row by an educator with
an ordinary address goes through exactly if the message to each student can be written. -/
theorem approvable_of_run {history : List Served} (served : Served) {educator : Educator}
    {row : Assignment} (run : Run history served.world.store)
    (admits : Admits served.world served.request educator)
    (ordinary : IsOrdinary educator.email ∧ Endless educator.email)
    (takes : (Work.session served.world).TakesMail)
    (member : row ∈ served.world.store.assignments)
    (names : Names served.request .approveAssignment row.id) :
    Approvable served educator row := by
  obtain ⟨attempts, approval, -, replies⟩ := exists_approvalOf run admits member names
  -- it is enough to know which approvals go through and what they leave
  suffices exact : (served.response.status = 200 ↔ Form.fitsWord row.id = true ∧
      ∀ student ∈ row.students, ∃ raw, Writes (noticeFor educator row student) raw) ∧
      (served.response.status = 200 →
        served.after.store = served.world.store.setStatus row.id .approved) ∧
      (served.response.status ≠ 200 → served.after.store = served.world.store) by
    obtain ⟨exact, success, otherwise⟩ := exact
    have stuck : served.response.status = 200 → hasSeveralLines row.title = false := by
      intro approved
      obtain ⟨student, reads⟩ :=
        List.exists_mem_of_ne_nil _ (sound_of_run run row member).placed.1
      obtain ⟨raw, writes⟩ := (exact.mp approved).2 student reads
      exact oneLine_of_writes writes
    exact {
      exact := exact
      oneLine := fun fits unframed => ⟨stuck, fun oneLine =>
        exact.mpr ⟨fits, exists_writes run member ordinary unframed oneLine⟩⟩
      stuck := fun several approved => by
        rw [stuck approved] at several
        cases several
      marked := fun approved => by
        rw [success approved]
        exact (kept_of_run run).ascending.setStatus_eq member .approved
      otherwise := otherwise }
  cases approval with
  | unfound wide unapproved same =>
      refine ⟨iff_of_false unapproved fun fit => ?_, fun h => absurd h unapproved, fun _ => same⟩
      rw [wide] at fit
      cases fit.1
  | untold fits course unapproved same =>
      have complete := course.result_eq_ok_iff (says_of_takesMail takes course replies)
      refine ⟨iff_of_false unapproved fun fit => ?_, fun h => absurd h unapproved, fun _ => same⟩
      cases complete.mpr fit.2
  | approved fits course success marked =>
      have complete := course.result_eq_ok_iff (says_of_takesMail takes course replies)
      exact ⟨iff_of_true success ⟨fits, complete.mp rfl⟩, fun _ => marked,
        fun other => absurd success other⟩

/-! ## (4) Examples -/

/-- Where nothing special is to be replied, every message is taken. -/
theorem takesMail_of_none {session : Remote.Session} (nothing : session.replies = none) :
    session.TakesMail := by
  intro raws
  induction raws generalizing session with
  | nil => exact fun _ member => absurd member List.not_mem_nil
  | cons raw raws ih =>
      have other : (Remote.mailing raw).address ≠ Remote.documentsAddress := by
        rw [Remote.address_mailing]
        decide +kernel
      have taken : session.answer (Remote.mailing raw) =
          (.empty, { session with sent := session.sent ++ [Remote.mailing raw] }) := by
        simp only [Remote.Session.answer, nothing, if_neg other]
      have said : Remote.Reply.empty.Says (.object []) :=
        ⟨_, _, _, rfl, by decide, by cbv⟩
      rw [List.map_cons, Remote.Session.repliesTo_cons, taken, List.forall_mem_cons]
      exact ⟨⟨_, said⟩, ih nothing⟩

/-- The educator of the sample has an ordinary address. -/
theorem isOrdinary_sample : IsOrdinary "e@b.co" ∧ Endless "e@b.co" := by
  refine ⟨⟨⟨["e"], ["b", "co"], ?_, ?_, ?_⟩, ?_, ?_⟩, ?_⟩
  · unfold Mail.IsRow Mail.IsWord
    decide
  · unfold Mail.IsRow Mail.IsWord
    decide
  · decide
  · decide
  · unfold Text.IsScalar
    decide
  · unfold Endless
    decide

/-- The row of the sample can be approved. -/
theorem approvable_of_run_sample :
    ∃ store, Run sampleHistory store ∧
      let served : Served := ⟨approveRequest, { sampleWorld with store }⟩
      Admits served.world served.request ⟨"e@b.co", "t"⟩ ∧
        (IsOrdinary "e@b.co" ∧ Endless "e@b.co") ∧ (Work.session served.world).TakesMail ∧
        served.response.status = 200 ∧
        ∃ row ∈ store.assignments, Names served.request .approveAssignment row.id ∧
          Approvable served ⟨"e@b.co", "t"⟩ row := by
  obtain ⟨store, stored⟩ : ∃ store, store = (answer sampleRequest sampleWorld).2.store :=
    ⟨_, rfl⟩
  have run : Run sampleHistory store := stored ▸ run_sampleHistory
  have admits : Admits { sampleWorld with store } approveRequest ⟨"e@b.co", "t"⟩ :=
    admits_sample (by decide +kernel) rfl
  have takes : (Work.session { sampleWorld with store }).TakesMail := takesMail_of_none rfl
  have ids : store.assignments.map Assignment.id = [1] := stored ▸ map_id_sampleHistory
  obtain ⟨row, member, first⟩ := List.mem_map.mp (ids ▸ List.mem_singleton_self (1 : Int))
  have success : (answer approveRequest { sampleWorld with store }).1.status = 200 :=
    stored ▸ status_approveRequest
  have names : Names approveRequest .approveAssignment row.id :=
    first ▸ ⟨["1"], by decide +kernel, by rfl⟩
  exact ⟨store, run, admits, isOrdinary_sample, takes, success, row, member, names,
    approvable_of_run ⟨approveRequest, { sampleWorld with store }⟩ run admits isOrdinary_sample
      takes member names⟩

/-- A request for an assignment with a title of two lines. -/
def linesRequest : Web.Request := { sampleRequest with
  text :=
    "\x7b\"title\": \"A\\nB\", \"subject\": \"B\", \"classroomId\": 1, \"deadline\": \"C\"\x7d" }

/-- Not every assignment that was added can be approved. -/
theorem not_approves_lines :
    ¬∀ (history : List Served) (served : Served) (educator : Educator) (row : Assignment),
      Run history served.world.store → Admits served.world served.request educator →
      IsOrdinary educator.email ∧ Endless educator.email →
      (Work.session served.world).TakesMail → row ∈ served.world.store.assignments →
      Names served.request .approveAssignment row.id →
      served.response.status = 200 ∧
        ∃ later ∈ served.after.store.assignments, later = { row with status := .approved } := by
  intro always
  obtain ⟨store, stored⟩ : ∃ store, store = (answer linesRequest sampleWorld).2.store :=
    ⟨_, rfl⟩
  have run : Run [⟨classroomRequest, { sampleWorld with store := {} }⟩,
      ⟨linesRequest, sampleWorld⟩] store := by
    have first := Run.serve { sampleWorld with store := {} } Run.start classroomRequest
    rw [store_classroomRequest] at first
    exact stored ▸ Run.serve sampleWorld first linesRequest
  have ids : store.assignments.map Assignment.id = [1] := by
    rw [stored]
    decide +kernel
  obtain ⟨row, member, first⟩ := List.mem_map.mp (ids ▸ List.mem_singleton_self (1 : Int))
  have failed : (answer approveRequest { sampleWorld with store }).1.status = 500 := by
    rw [stored]
    decide +kernel
  have admits : Admits { sampleWorld with store } approveRequest ⟨"e@b.co", "t"⟩ :=
    admits_sample (by decide +kernel) rfl
  have names : Names approveRequest .approveAssignment row.id :=
    first ▸ ⟨["1"], by decide +kernel, by rfl⟩
  have approved := (always _ ⟨approveRequest, { sampleWorld with store }⟩ _ row run admits
    isOrdinary_sample (takesMail_of_none rfl) member names).1
  rw [Served.response, failed] at approved
  cases approved

end Api

end Coursework
