import Coursework.Proofs.Assignment.Taxonomy
import Coursework.Proofs.Document.Content
import Coursework.Proofs.Document.Totality
import Coursework.Proofs.Json.Numerals
import Coursework.Proofs.Outline.Encodable
import Coursework.Proofs.Remote.Publication

/-! # From an accepted reply to requests

The assignment of an accepted reply is shown as a document, which is read as tokens, compiled to
operations and asked for by requests. All of this succeeds unless a token or the destination of a
link has a surrogate, which a reply must spell.

* **`Record.requests`** and **`Reply.requests`** put the stages together.
* **`Record.exists_requests_iff`** and **`Record.unencodable_of_requests`** are the statements
  about assignments, **`Reply.requests_of_accepted`** that about replies.
* **`Reply.short_of_validate`**: no whole number that is kept has too many digits to be shown. -/

namespace Coursework

/-! ## (1) Stages -/

/-- The requests that fill the document of an assignment. -/
def Record.requests (record : Record) : Outcome (List Json) := do
  let markdown := Outline.render .usual record
  let compilation ← Compilation.ofMarkdown markdown
  Operation.requests (compilation.operations.map .operation)

/-- The requests that a reply leads to. -/
def Reply.requests (reply : Text) : Outcome (List Json) := do
  let accepted ← validate (.text reply)
  accepted.record.requests

/-! ## (2) Assignments -/

namespace Record

variable {record : Record}

/-- The document of an assignment is compiled exactly if its destinations and its tokens have no
surrogates. -/
theorem exists_requests_iff : (∃ requests, record.requests = .ok requests) ↔
    Token.Addressed (Outline.render .usual record) ∧
      ∀ token ∈ Token.ofMarkdown (Outline.render .usual record), token.Encodable := by
  obtain ⟨labels, first⟩ :=
    Outline.exists_heading_first Outline.presentable_usual (record.toJson.toFields?.getD [])
  have title : _ ∈ Token.ofMarkdown (Outline.render .usual record) := List.mem_of_head? first
  rw [← Compilation.exists_ofTokens_iff_of_heading (Outline.render .usual record) title]
  simp only [requests, Outcome.bind_eq_ok_iff, Remote.requests_operation, Except.ok.injEq,
    Compilation.ofMarkdown_eq_ok_iff]
  constructor
  · rintro ⟨_, compilation, ⟨addressed, compiled⟩, -⟩
    exact ⟨addressed, compilation, compiled⟩
  · rintro ⟨addressed, compilation, compiled⟩
    exact ⟨_, compilation, ⟨addressed, compiled⟩, rfl⟩

/-- Nothing but a surrogate stops the work on an assignment. -/
theorem unencodable_of_requests {failure : Failure} (failed : record.requests = .error failure) :
    failure.IsAddressless ∨ failure.IsUnencodable := by
  rcases Outcome.bind_eq_error_iff.mp failed with uncompiled | ⟨compilation, -, failed⟩
  · exact Compilation.unencodable_of_ofMarkdown uncompiled
  · rw [Remote.requests_operation] at failed
    cases failed

/-- An assignment whose values have no surrogates is asked for. -/
theorem exists_requests_of_plain
    (plain : ∀ value ∈ Outline.shownValues (record.toJson.toFields?.getD []),
      Outline.isPlain value = true) : ∃ requests, record.requests = .ok requests :=
  have document := Outline.hasSurrogate_renderFields plain
  exists_requests_iff.mpr ⟨Token.addressed_of_plain document, Token.encodable_ofMarkdown document⟩

end Record

/-! ## (3) Values of a reply -/

namespace Reply

variable {fields : List (Text × Json)}

/-- A field of an object without surrogates has none. -/
theorem isPlain_fieldIn (plain : Json.havePlain fields = true) {name : Text} {value : Json}
    (found : Json.fieldIn? name fields = some value) : value.isPlain = true := by
  induction fields with
  | nil => cases found
  | cons field fields ih =>
      obtain ⟨key, own⟩ := field
      simp only [Json.havePlain, Bool.and_eq_true] at plain
      rw [Json.fieldIn?] at found
      split at found
      · cases found
        exact plain.1.2
      · exact ih plain.2 found

/-- A value without surrogates can be shown. -/
theorem isPlain_some {value : Json} (plain : value.isPlain = true) :
    Outline.isPlain (some value) = true := by
  cases value with
  | text content => exact (Json.isPlain_text content).symm.trans plain
  | null | bool _ | int _ | float _ | list _ | object _ => rfl

theorem Shown.isPlain {name shown : Text} (plain : Json.havePlain fields = true)
    (shows : Shown fields name shown) : Outline.isPlain (some (.text shown)) = true := by
  obtain ⟨value, found, rfl⟩ := shows
  have own := isPlain_some (isPlain_fieldIn plain found)
  rw [Outline.isPlain, Outline.hasSurrogate_display_of_isPlain own]
  rfl

/-- A task that an object without surrogates describes shows none. -/
theorem isPlain_task (plain : Json.havePlain fields = true) :
    ∀ value ∈ [(task fields).toJson.get? "description", (task fields).toJson.get? "weightage"],
      Outline.isPlain value = true := by
  have description : Outline.isPlain (some (.text (task fields).description)) = true := by
    rw [task, textOr.eq_def]
    split
    · rfl
    · rename_i value found
      split
      · rfl
      · exact Shown.isPlain plain ⟨value, found, rfl⟩
  have weightage : Outline.isPlain (some (task fields).weightage.toJson) = true := by
    rw [task, taskMarks.eq_def]
    split
    · rename_i content found
      exact isPlain_some (isPlain_fieldIn plain found)
    · rfl
    · rfl
    · rfl
  exact List.forall_mem_cons.mpr ⟨description, List.forall_mem_singleton.mpr weightage⟩

/-- An assignment that an object without surrogates describes shows none. -/
theorem isPlain_of_assembled {expected : Nat} {listed : List (List (Text × Json))} {record : Record}
    (plain : Json.havePlain fields = true) (describes : Describes fields expected listed)
    (assembled : Assembled fields expected listed record) :
    ∀ value ∈ Outline.shownValues (record.toJson.toFields?.getD []),
      Outline.isPlain value = true := by
  have marks : Outline.isPlain (some record.totalMarks.toJson) = true := by
    obtain ⟨value, found, kept⟩ := assembled.totalMarks
    have own := isPlain_fieldIn plain found
    rw [kept]
    -- a truth value is kept as the text that shows it, any other value as it is
    cases value with
    | bool value => exact Shown.isPlain plain ⟨_, found, rfl⟩
    | null | int _ | float _ | text _ | list _ | object _ => exact isPlain_some own
  have tasks : ∀ task ∈ record.tasks.map Task.toJson,
      ∀ value ∈ [task.get? "description", task.get? "weightage"], Outline.isPlain value = true := by
    -- the tasks that are kept are some of those listed
    rw [assembled.tasks_eq, List.forall_mem_map, List.forall_mem_map]
    intro inner member
    have found := isPlain_fieldIn plain describes.tasks
    rw [Json.isPlain_list, Json.arePlain_eq_true_iff] at found
    have own := found _ (List.mem_map_of_mem (List.mem_of_mem_take member))
    exact isPlain_task ((Json.isPlain_object inner).symm.trans own)
  refine List.forall_mem_append.mpr ⟨?_, List.forall_mem_flatMap.mpr tasks⟩
  simp only [List.forall_mem_cons]
  exact ⟨assembled.title.isPlain plain, assembled.deadline.isPlain plain, rfl, marks,
    assembled.criteria.isPlain plain, fun _ h => absurd h List.not_mem_nil⟩

/-- The whole numbers among the marks of an accepted assignment are within the limit of digits, so
that all of them can be shown. -/
theorem short_of_validate {reply : Json} {accepted : Accepted}
    (valid : validate reply = .ok accepted) :
    ∀ marks ∈ accepted.record.totalMarks :: accepted.record.tasks.map Task.weightage,
      ∀ number, marks = .int number → Json.Short number := by
  obtain ⟨fields, expected, listed, ⟨⟨text, -, read⟩, describes⟩, assembled, -⟩ :=
    validate_eq_ok_iff.mp valid
  have bounded := Json.bounded_of_read read
  -- a whole number that is kept was read
  have kept {fields : List (Text × Json)} (bounded : Json.Bounded (.object fields)) {name : Text}
      {number : Int} (found : Json.fieldIn? name fields = some (.int number)) :
      Json.Short number := by
    cases bounded.of_fieldIn? found with
    | int short => exact short
  have total : ∀ number, accepted.record.totalMarks = .int number → Json.Short number := by
    intro number same
    obtain ⟨value, found, stays⟩ := assembled.totalMarks
    rw [same] at stays
    cases value with
    | int value =>
        cases stays
        exact kept bounded found
    | null | bool _ | float _ | text _ | list _ | object _ => cases stays
  have tasks : ∀ task ∈ accepted.record.tasks, ∀ number, task.weightage = .int number →
      Json.Short number := by
    intro task member number same
    rw [assembled.tasks_eq] at member
    obtain ⟨inner, listing, rfl⟩ := List.mem_map.mp member
    obtain found | ⟨-, empty⟩ := (taskOf_iff.mpr (Eq.refl (task inner))).weightage
    · rw [same] at found
      have each := bounded.of_fieldIn? describes.tasks
      cases each with
      | list each =>
          exact kept (each _ (List.mem_map_of_mem (List.mem_of_mem_take listing))) found
    · cases same.symm.trans empty
  exact List.forall_mem_cons.mpr ⟨total, List.forall_mem_map.mpr tasks⟩

/-! ## (4) Replies -/

/-- **Nothing but a surrogate stops the work on an accepted reply.** The requests that it leads to
are found exactly if no destination in its document and none of its tokens has a surrogate, which is
so if the reply does not spell one; and any failure is that of a surrogate, in UTF-8 for a
destination and in UTF-16 for a token. -/
theorem requests_of_accepted {reply : Text} {accepted : Accepted}
    (valid : validate (.text reply) = .ok accepted) :
    ((∃ requests, Reply.requests reply = .ok requests) ↔
        Token.Addressed (Outline.render .usual accepted.record) ∧
          ∀ token ∈ Token.ofMarkdown (Outline.render .usual accepted.record), token.Encodable) ∧
      (∀ failure, Reply.requests reply = .error failure →
        failure.IsAddressless ∨ failure.IsUnencodable) ∧
      (Json.spellsSurrogate reply = false → ∃ requests, Reply.requests reply = .ok requests) := by
  have same : Reply.requests reply = accepted.record.requests := by
    rw [Reply.requests, valid]
    simp only [bind, Except.bind]
  rw [same]
  refine ⟨Record.exists_requests_iff, fun _ => Record.unencodable_of_requests, fun unspelled => ?_⟩
  obtain ⟨fields, expected, listed, ⟨⟨text, itself, read⟩, describes⟩, assembled, -⟩ :=
    validate_eq_ok_iff.mp valid
  cases itself
  -- the text within the fences stands in the reply, so it spells no surrogate either
  have plain := Json.isPlain_of_read read
    (Json.spellsSurrogate_of_isInfix unspelled (unfence_isInfix reply))
  rw [Json.isPlain_object] at plain
  exact Record.exists_requests_of_plain (isPlain_of_assembled plain describes assembled)

/-- A reply that describes two tasks, with the title as it is spelled there. -/
def titled (title : Text) : Text :=
  ("\x7b\"title\": \"" : Text) ++ title ++ "\", \"deadline\": \"2025-03-01\", " ++
    "\"totalMarksWeightage\": \"100\", \"evaluationCriteria\": \"Correctness and clarity\", " ++
    "\"numberOfTasks\": 2, \"tasks\": [" ++
    "\x7b\"description\": \"Task body 1\", \"weightage\": \"10\"\x7d, " ++
    "\x7b\"description\": \"Task body 2\", \"weightage\": \"20\"\x7d]\x7d"

/-- The assignment of two tasks is asked for. -/
theorem requests_of_accepted_titled :
    ∃ accepted, validate (.text (titled "Binary Trees")) = .ok accepted ∧
      ∃ requests, Reply.requests (titled "Binary Trees") = .ok requests := by
  have found : (validate (.text (titled "Binary Trees"))).isOk = true := by decide +kernel
  obtain ⟨accepted, valid⟩ := Outcome.exists_of_isOk found
  exact ⟨accepted, valid, (requests_of_accepted valid).2.2 (by decide +kernel)⟩

/-- A title that is a lone surrogate is accepted, but the text of its heading is not counted. -/
theorem not_requests_of_surrogate :
    ¬ ∀ (reply : Text) (accepted : Accepted), validate (.text reply) = .ok accepted →
      ∃ requests, Reply.requests reply = .ok requests := by
  intro every
  have found : (validate (.text (titled "\\ud800"))).isOk = true := by decide +kernel
  have stopped : (Reply.requests (titled "\\ud800")).isOk = false := by decide +kernel
  obtain ⟨accepted, valid⟩ := Outcome.exists_of_isOk found
  obtain ⟨requests, made⟩ := every _ accepted valid
  rw [made] at stopped
  cases stopped

end Reply

end Coursework
