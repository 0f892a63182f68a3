import Coursework.Proofs.Api.History
import Coursework.Proofs.Assignment.Acceptance
import Coursework.Proofs.Json.Compact
import Coursework.Proofs.Mailbox.Plain
import Coursework.Proofs.Outline.Retention
import Coursework.Proofs.Store.Ascending

/-! # Answers that can be written

A row is added before the answer that shows it is written. The answer can always be written: the
texts of a row were checked before it was kept, those of its tasks stand in its document, and
students have addresses in normal form.

* **`checkWritable_eq_ok_iff`** says which content can be written.
* **`Reachable.hasSurrogate_reader`** is about students, **`checkWritable_createdResponse`** about
  the answer that shows a new assignment. -/

namespace Coursework

/-! ## (1) What can be written -/

namespace Store

theorem checkText_eq_ok_iff {text : Text} :
    checkText text = .ok () ↔ text.hasSurrogate = false := by
  rw [checkText, Outcome.mapError_eq_ok_iff, Outcome.map_eq_ok_iff, ← Text.exists_utf8_iff]
  simp

theorem checkTexts_eq_ok_iff {texts : List Text} :
    checkTexts texts = .ok () ↔ ∀ text ∈ texts, text.hasSurrogate = false := by
  induction texts with
  | nil => simp [checkTexts, pure, Except.pure]
  | cons text texts ih =>
      have both : checkTexts (text :: texts) = checkText text >>= fun _ => checkTexts texts := rfl
      rw [both, Outcome.bind_eq_ok_iff, List.forall_mem_cons, ← ih, ← checkText_eq_ok_iff]
      constructor
      · rintro ⟨⟨⟩, first, rest⟩
        exact ⟨first, rest⟩
      · rintro ⟨first, rest⟩
        exact ⟨(), first, rest⟩

end Store

namespace Api

open Remote (Educator Link)

theorem checkWritable_eq_ok_iff {content : Json} :
    checkWritable content = .ok () ↔ content.isFinite = true ∧ content.isPlain = true := by
  rw [checkWritable]
  cases content.isFinite with
  | false => simp
  | true =>
      rw [if_pos rfl, Outcome.mapError_eq_ok_iff, Outcome.map_eq_ok_iff,
        ← Bool.not_not content.isPlain, ← Json.hasSurrogate_compact, Bool.not_eq_true',
        ← Text.exists_utf8_iff]
      simp

/-! ## (2) Classrooms -/

/-- A text within bounds has no surrogates. -/
theorem hasSurrogate_of_textOfLength {least greatest : Nat} {value : Json} {text : Text}
    (fits : Form.textOfLength least greatest value = .ok text) : text.hasSurrogate = false := by
  obtain ⟨given, -, checked⟩ := Outcome.bind_eq_ok_iff.mp fits
  by_cases surrogate : given.hasSurrogate = true
  · rw [if_pos surrogate] at checked
    cases checked
  · rw [if_neg surrogate] at checked
    split at checked
    · cases checked
    · split at checked
      · cases checked
      · obtain rfl := Except.ok.inj checked
        exact Bool.not_eq_true _ ▸ surrogate

/-- The name that a form gives has none. -/
theorem hasSurrogate_name {request : Web.Request} {form : ClassroomForm}
    (gives : Gives request ClassroomForm.ofFields form) : form.name.hasSurrogate = false := by
  obtain ⟨value, -, fits⟩ := gives
  cases value with
  | object fields =>
      obtain ⟨_, students, hname, -, rfl⟩ := Checked.also_eq_ok_iff.mp fits
      obtain ⟨_, name, hstart, given, rfl⟩ := Checked.also_eq_ok_iff.mp hname
      obtain rfl := Except.ok.inj hstart
      rw [Form.required] at given
      split at given
      · exact hasSurrogate_of_textOfLength (Outcome.mapError_eq_ok_iff.mp given)
      · cases given
  | null | bool _ | int _ | float _ | text _ | list _ => cases fits

/-- The students that a form names are mailboxes in normal form. -/
theorem exists_mailbox_of_gives {request : Web.Request} {form : ClassroomForm}
    (gives : Gives request ClassroomForm.ofFields form) :
    ∀ student ∈ form.students, ∃ value, Form.mailbox value = .ok student := by
  obtain ⟨value, -, fits⟩ := gives
  cases value with
  | object fields =>
      obtain ⟨_, students, hname, hstudents, rfl⟩ := Checked.also_eq_ok_iff.mp fits
      obtain ⟨_, name, hstart, -, rfl⟩ := Checked.also_eq_ok_iff.mp hname
      obtain rfl := Except.ok.inj hstart
      rw [Form.withDefault] at hstudents
      split at hstudents
      · have listed := Outcome.mapError_eq_ok_iff.mp hstudents
        rw [Form.list.eq_def] at listed
        split at listed
        · intro student member
          obtain ⟨item, -, read⟩ := Checked.exists_of_eachFrom listed member
          exact ⟨item, read⟩
        · cases listed
      · obtain rfl := Except.ok.inj hstudents
        exact fun _ member => absurd member List.not_mem_nil
  | null | bool _ | int _ | float _ | text _ | list _ => cases fits

/-- So they have no surrogates. -/
theorem hasSurrogate_students {request : Web.Request} {form : ClassroomForm}
    (gives : Gives request ClassroomForm.ofFields form) :
    ∀ student ∈ form.students, student.hasSurrogate = false := by
  intro student member
  obtain ⟨value, read⟩ := exists_mailbox_of_gives gives student member
  exact Form.hasSurrogate_mailbox read

/-- The students of every classroom to which requests lead are such mailboxes. -/
theorem Reachable.exists_mailbox {store : Store} (reachable : Reachable store) :
    ∀ classroom ∈ store.classrooms, ∀ reader ∈ classroom.readers,
      ∃ value, Form.mailbox value = .ok reader := by
  refine @Reachable.induction (fun store => ∀ classroom ∈ store.classrooms,
    ∀ reader ∈ classroom.readers, ∃ value, Form.mailbox value = .ok reader)
    (fun _ member => absurd member List.not_mem_nil)
    (fun request world after reported holds step => ?_) store reachable
  cases step with
  | nothing same =>
      rw [same]
      exact holds
  | classroom gives added =>
      rw [added, Store.classrooms_addClassroom _ _ rfl]
      simp only [List.forall_mem_append, List.forall_mem_singleton]
      exact ⟨holds, exists_mailbox_of_gives gives⟩
  | assignment _ _ _ _ _ _ added =>
      rw [added]
      exact holds
  | approval _ _ marked =>
      rw [marked]
      exact holds

/-- They have addresses without surrogates. -/
theorem Reachable.hasSurrogate_reader {store : Store} (reachable : Reachable store) :
    ∀ classroom ∈ store.classrooms, ∀ reader ∈ classroom.readers,
      reader.hasSurrogate = false := by
  intro classroom member reader reads
  obtain ⟨value, read⟩ := reachable.exists_mailbox classroom member reader reads
  exact Form.hasSurrogate_mailbox read

/-- The students of the classroom of a brief are among them. -/
theorem Hosts.mem {store : Store} {brief : Brief} {classroom : Classroom}
    (hosts : Hosts store brief classroom) : classroom ∈ store.classrooms := by
  obtain ⟨_, -, found⟩ := Outcome.map_eq_ok_iff.mp hosts.1
  exact List.mem_of_find?_eq_some found.symm

/-! ## (3) The answer that shows a new assignment -/

/-- The tasks of an assignment are plain if its document is. -/
theorem isPlain_tasks {record : Record}
    (plain : (Outline.render .usual record).hasSurrogate = false) :
    ∀ task ∈ record.tasks.map Task.toJson, task.isPlain = true := by
  have shown := Outline.hasSurrogate_renderFields_iff.mp plain
  rw [Outline.shownValues, List.forall_mem_append] at shown
  have listed : Outline.listed (Json.fieldIn? "tasks" (record.toJson.toFields?.getD [])) =
      record.tasks.map Task.toJson := rfl
  rw [listed] at shown
  intro value member
  have own := shown.2
  obtain ⟨task, -, rfl⟩ := List.mem_map.mp member
  have description := own _ (List.mem_flatMap.mpr ⟨_, member, List.mem_cons_self⟩)
  have weightage := own _ (List.mem_flatMap.mpr
    ⟨_, member, List.mem_cons_of_mem _ List.mem_cons_self⟩)
  have hdescription : task.toJson.get? "description" = some (.text task.description) := rfl
  have hweightage : task.toJson.get? "weightage" = some task.weightage.toJson := rfl
  rw [hdescription, Outline.isPlain, Bool.not_eq_true'] at description
  rw [hweightage] at weightage
  have marks : task.weightage.toJson.isPlain = true := by
    cases h : task.weightage with
    | text content =>
        rw [h] at weightage
        rw [Marks.toJson, Json.isPlain_text]
        exact weightage
    | int _ | float _ => rw [Marks.toJson, Json.isPlain]
  have names : Text.hasSurrogate "description" = false ∧ Text.hasSurrogate "weightage" = false := by
    decide
  simp [Task.toJson, Json.havePlain, description, marks, names]

/-- An answer that shows a row with texts that can be kept can be written if its tasks, its
students and what was noticed are plain. -/
theorem checkWritable_createdResponse {assignment : Assignment} {noticed : List Diagnostic}
    (fit : Store.checkTexts assignment.texts = .ok ())
    (tasks : ∀ task ∈ assignment.tasks, task.isPlain = true)
    (students : ∀ student ∈ assignment.students, student.hasSurrogate = false)
    (told : ∀ diagnostic ∈ noticed, diagnostic.message.hasSurrogate = false) :
    ∃ content, (createdResponse assignment noticed).content = .json content ∧
      checkWritable content = .ok () := by
  have texts := Store.checkTexts_eq_ok_iff.mp fit
  simp only [Assignment.texts, List.forall_mem_append, List.forall_mem_cons, Option.mem_toList]
    at texts
  obtain ⟨⟨⟨⟨⟨⟨⟨title, subject, deadline, -⟩, marks⟩, criteria⟩, language, instructions, content,
    -⟩, -⟩, link⟩, creator, -⟩ := texts
  have status : assignment.status.name.hasSurrogate = false := by
    cases assignment.status <;> decide
  refine ⟨_, rfl, checkWritable_eq_ok_iff.mpr ⟨?_, ?_⟩⟩
  · simp [Json.isFinite, Json.haveFinite, shownAssignment, Json.isFinite_finite,
      Json.isFinite_texts, Json.isFinite_textOrNull]
  · simp +decide [shownAssignment, Json.isPlain_finite, Json.havePlain, Assignment.shownColumns,
      Json.arePlain_eq_true_iff, Json.isPlain_texts, Json.isPlain_textOrNull, title, subject,
      deadline, language, instructions, content, creator, status]
    exact ⟨⟨tasks, marks, criteria, link, students⟩, link, told⟩

theorem hasSurrogate_surplus (expected actual : Nat) :
    ∀ diagnostic ∈ Reply.surplus expected actual, diagnostic.message.hasSurrogate = false := by
  intro diagnostic member
  rw [Reply.surplus] at member
  split at member
  · obtain rfl := List.mem_singleton.mp member
    simp only [Diagnostic.message, Text.hasSurrogate_append, Text.hasSurrogate_ofNat]
    decide
  · cases member

theorem exists_noticed_of_ofAnswer {answer : Text} {accepted : Reply.Accepted}
    (answers : Generation.ofAnswer answer = .ok accepted) :
    ∃ expected actual, accepted.noticed = Reply.surplus expected actual := by
  rw [Generation.ofAnswer] at answers
  split at answers
  · cases answers
  · obtain ⟨_, expected, listed, -, -, noticed⟩ := Reply.validate_eq_ok_iff.mp answers
    exact ⟨expected, listed.length, noticed⟩

/-- The answer that shows a new assignment can be written. -/
theorem checkWritable_of_hosts {store : Store} {educator : Educator} {brief : Brief}
    {classroom : Classroom} {answer : Text} {accepted : Reply.Accepted} {link : Link}
    (reachable : Reachable store) (hosts : Hosts store brief classroom)
    (answers : Generation.ofAnswer answer = .ok accepted)
    (fit : Store.checkTexts (newAssignment store.nextAssignment brief accepted.record
      (markdownOf accepted) link classroom educator).texts = .ok ()) :
    ∃ content, (createdResponse (newAssignment store.nextAssignment brief accepted.record
        (markdownOf accepted) link classroom educator) accepted.noticed).content = .json content ∧
      checkWritable content = .ok () := by
  have plain : (markdownOf accepted).hasSurrogate = false :=
    Store.checkTexts_eq_ok_iff.mp fit _ (by simp [Assignment.texts, newAssignment])
  obtain ⟨expected, actual, noticed⟩ := exists_noticed_of_ofAnswer answers
  refine checkWritable_createdResponse fit (isPlain_tasks plain)
    (reachable.hasSurrogate_reader classroom hosts.mem) ?_
  rw [noticed]
  exact hasSurrogate_surplus expected actual

end Api

end Coursework
