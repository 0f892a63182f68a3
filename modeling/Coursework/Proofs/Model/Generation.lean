import Coursework.Model.Generation
import Coursework.Proofs.Assignment.Taxonomy
import Coursework.Proofs.Assignment.Transparency

/-! # The model's answer is judged as a reply

The model is asked once, and white space around its answer is taken away before the answer is
validated. Since the fences of a reply are looked for behind white space anyway, the verdict is that
on the answer as it came. Only a rejection for want of content may carry another text.

* **`Reply.SameVerdict`** is agreement of two verdicts but for that text;
  **`Reply.sameVerdict_of_unfence_eq`** finds it.
* **`Generation.Verdict`** tells what becomes of each answer of the model.
* **`Generation.generate_judges`** is the main statement. -/

namespace Coursework

/-! ## (1) Verdicts -/

namespace Reply

/-- Two verdicts are the same, but for the text that is carried by a rejection for want of
content. -/
inductive SameVerdict : Outcome Accepted → Outcome Accepted → Prop
  /-- They are the same: the record with its diagnostics, or the failure with all it carries. -/
  | same (verdict : Outcome Accepted) : SameVerdict verdict verdict
  /-- Both replies have no content. -/
  | empty (source other : Json) :
    SameVerdict (.error (.rejected ⟨.empty, source⟩)) (.error (.rejected ⟨.empty, other⟩))

/-- A reply without anything within the fences is rejected, and carried as it is. -/
theorem validate_of_unfence_eq_nil {reply : Text} (empty : unfence reply = []) :
    validate (.text reply) = .error (.rejected ⟨.empty, .text reply⟩) := by
  rw [validate_text, empty, decodeUnfenced]
  rfl

/-- Replies with the same text within the fences have the same verdict. -/
theorem sameVerdict_of_unfence_eq {reply other : Text} (same : unfence reply = unfence other) :
    SameVerdict (validate (.text reply)) (validate (.text other)) := by
  by_cases empty : unfence other = []
  · rw [validate_of_unfence_eq_nil empty, validate_of_unfence_eq_nil (same.trans empty)]
    exact .empty _ _
  · have alike : validate (.text reply) = validate (.text other) := by
      have filled : ¬(unfence other).isEmpty = true := mt List.isEmpty_iff.mp empty
      rw [validate_text, validate_text, decodeUnfenced, decodeUnfenced, same, if_neg filled,
        if_neg filled]
    rw [alike]
    exact .same _

theorem unfence_of_strip_eq_nil {reply : Text} (blank : reply.strip = []) :
    unfence reply = [] := by
  rw [unfence, blank]
  rfl

end Reply

/-! ## (2) Answers -/

namespace Generation

open Reply (SameVerdict)
open Completion (Answer)

/-- An answer has the verdict of a reply. -/
theorem sameVerdict_ofAnswer (answer : Text) :
    SameVerdict (ofAnswer answer) (Reply.validate (.text answer)) := by
  rw [ofAnswer]
  split
  · rename_i blank
    rw [Reply.validate_of_unfence_eq_nil
      (Reply.unfence_of_strip_eq_nil (List.isEmpty_iff.mp blank))]
    exact .empty _ _
  · exact Reply.sameVerdict_of_unfence_eq (Reply.unfence_strip answer)

/-- What becomes of an answer of the model. -/
inductive Verdict : Answer → Outcome Reply.Accepted → Prop
  /-- An empty list of choices is rejected for want of content. -/
  | noChoices (source : Json) : Verdict .noChoices (.error (.rejected ⟨.empty, source⟩))
  /-- So is a choice without content. -/
  | noContent (source : Json) : Verdict (.content none) (.error (.rejected ⟨.empty, source⟩))
  /-- A text has the verdict of the reply that it is. -/
  | reply {text : Text} {verdict : Outcome Reply.Accepted}
    (same : SameVerdict verdict (Reply.validate (.text text))) :
    Verdict (.content (some text)) verdict
  /-- A call that fails is reported. -/
  | failure (message : Text) : Verdict (.failure message) (.error (.modelFailed message))

/-- A message of a question. -/
def message (role content : Text) : Json :=
  .object [("role", .text role), ("content", .text content)]

/-- With a key, a question takes the next answer and is kept among the questions. -/
theorem ask_of_hasKey {model : Completion.Model} (key : model.hasKey = true)
    (call : Completion.Call) :
    Completion.ask call model = ((model.answers.headD .noChoices).text,
      { model with answers := model.answers.drop 1, calls := model.calls ++ [call] }) :=
  if_pos key

/-- What is generated from an answer is judged. -/
theorem verdict_text (answer : Answer) : Verdict answer (answer.text.bind ofAnswer) := by
  cases answer with
  | noChoices => exact .noChoices _
  | failure message => exact .failure message
  | content reply =>
      cases reply with
      | none => exact .noContent _
      | some text => exact .reply (sameVerdict_ofAnswer text)

/-- **The model is asked once and its answer judged as it came.** Of a brief the model is asked one
question: what it is told beforehand, then the prompt of the brief. No choices and no content are
rejected for want of content; any text has the verdict of the reply that it is. The whole numbers
of the brief are meant to be `Json.Short`, like all that are read. -/
theorem generate_judges (brief : Brief) {model : Completion.Model} (key : model.hasKey = true) :
    (question brief).toJson.get? "messages" = some (.list [message "system" Prompt.system,
      message "user" (Prompt.ofBrief brief none)]) ∧
    (generate brief model).2 = { model with
      answers := model.answers.drop 1, calls := model.calls ++ [question brief] } ∧
    Verdict (model.answers.headD .noChoices) (generate brief model).1 := by
  have judged := verdict_text (model.answers.headD .noChoices)
  refine ⟨rfl, ?_⟩
  rw [generate, ask_of_hasKey key]
  cases h : (model.answers.headD .noChoices).text with
  | error failure =>
      rw [h] at judged
      exact ⟨rfl, judged⟩
  | ok answer =>
      rw [h] at judged
      exact ⟨rfl, judged⟩

/-- A brief and a model that answers with white space about an opened fence. -/
theorem generate_judges_blank :
    let brief : Brief := { title := "A", subject := "B", classroom := 1, deadline := "C" }
    let model : Completion.Model := { answers := [.content (some "\u2003```json\n\u3000 ")] }
    model.hasKey = true ∧
      (generate brief model).2.calls = [question brief] ∧
      Verdict (.content (some "\u2003```json\n\u3000 ")) (generate brief model).1 ∧
      Reply.validate (.text "\u2003```json\n\u3000 ") =
        .error (.rejected ⟨.empty, .text "\u2003```json\n\u3000 "⟩) := by
  intro brief model
  obtain ⟨-, after, judged⟩ := @generate_judges brief model rfl
  exact ⟨rfl, congrArg Completion.Model.calls after, judged,
    Reply.validate_of_unfence_eq_nil (by decide)⟩

end Generation

end Coursework
