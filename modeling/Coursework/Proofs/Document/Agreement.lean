import Coursework.Proofs.Assignment.Acceptance
import Coursework.Proofs.Assignment.Fences
import Coursework.Proofs.Document.Content
import Coursework.Proofs.Json.RoundTrip

/-! # One document for a reply and its assignment

A reply can be published as it came, as the assignment that was read from it, or as the document
of that assignment. The first is shown from the fields of the reply, some of which are missing or
of another kind than the assignment keeps. Where the reply gives its fields in their own kinds and
lists no more tasks than it announces, the three are the same document.

* **`Reply.OpensJson`** holds of replies that stand bare or in a fence for JSON; an accepted one
  is taken for JSON, as **`Reply.looksLikeJson_of_read`** shows.
* **`Reply.Canonical`** holds of fields in their own kinds; **`Outline.renderFields_eq_render`**
  shows them like the assignment.
* **`Content.markdown_eq_of_accepted`** is the statement about the three contents. -/

namespace Coursework

/-! ## (1) Replies that look like JSON -/

namespace Json

/-- A number is read as a number. -/
theorem isNumber_of_readNumber {text rest : Text} {value : Json}
    (found : readNumber text = .ok (value, rest)) :
    (∃ number, value = .int number) ∨ ∃ number, value = .float number := by
  have unsigned {start text : Text} {negative : Bool}
      (found : readUnsigned start negative text = .ok (value, rest)) :
      (∃ number, value = .int number) ∨ ∃ number, value = .float number := by
    rw [readUnsigned] at found
    split at found
    · cases found
    · dsimp only at found
      split at found
      · split at found
        · cases found
        · cases found
          exact .inl ⟨_, rfl⟩
      · cases found
        exact .inr ⟨_, rfl⟩
  rw [readNumber.eq_def] at found
  split at found
  · exact unsigned found
  · exact unsigned found

/-- An object begins with a brace. -/
theorem exists_of_readValue_object {steps : Nat} {text rest : Text} {fields : List (Text × Json)}
    (found : readValue steps text = .ok (.object fields, rest)) :
    ∃ behind, text = Sign.leftBrace :: behind := by
  cases steps with
  | zero => cases found
  | succ steps =>
      rw [readValue.eq_def] at found
      dsimp only at found
      split at found
      · obtain ⟨_, -, h⟩ := Outcome.map_eq_ok_iff.mp found
        cases h
      · exact ⟨_, rfl⟩
      · split at found
        · cases found
        · obtain ⟨_, -, h⟩ := Outcome.map_eq_ok_iff.mp found
          cases h
      · split at found
        · rename_i keyword
          obtain rfl := Except.ok.inj found
          have other : ∀ keyword ∈ keywords, keyword.2 ≠ .object fields := by simp [keywords]
          obtain ⟨⟨word, value⟩, member, spelled⟩ := List.exists_of_findSome?_eq_some keyword
          obtain ⟨_, -, h⟩ := Option.map_eq_some_iff.mp spelled
          cases h
          exact absurd rfl (other _ member)
        · rcases isNumber_of_readNumber found with ⟨_, h⟩ | ⟨_, h⟩ <;> cases h

/-- Only a text that begins with a brace is read as an object. -/
theorem exists_skip_of_read {text : Text} {fields : List (Text × Json)}
    (found : read text = .ok (.object fields)) : ∃ rest, skip text = Sign.leftBrace :: rest := by
  rw [read.eq_def] at found
  split at found
  · cases found
  · split at found
    · cases found
    · rename_i value rest first
      split at found
      · obtain rfl := Except.ok.inj found
        exact exists_of_readValue_object first
      · cases found

theorem isBlank_of_isSeparator {sign : Nat} (separates : isSeparator sign = true) :
    Sign.isBlank sign = true := by
  simp only [isSeparator, Bool.or_eq_true, beq_iff_eq] at separates
  rcases separates with ((rfl | rfl) | rfl) | rfl <;> decide

/-- Nothing is skipped of a text that does not begin with white space. -/
theorem skip_eq_self {text : Text} (trimmed : text.Trimmed) : skip text = text := by
  cases text with
  | nil => rfl
  | cons sign text =>
      have solid := trimmed.first sign rfl
      refine List.dropWhile_cons_of_neg fun separates => ?_
      rw [isBlank_of_isSeparator separates] at solid
      cases solid

end Json

namespace Reply

/-- A reply that begins with a fence begins with one for JSON. -/
def OpensJson (reply : Text) : Prop :=
  reply.strip.startsWith fence = true → reply.strip.startsWith "```json" = true

/-- A reply whose text is read as an object is taken for JSON. -/
theorem looksLikeJson_of_read {reply : Text} {fields : List (Text × Json)}
    (opens : OpensJson reply) (found : Json.read (unfence reply) = .ok (.object fields)) :
    Content.looksLikeJson reply = true := by
  rw [Content.looksLikeJson, Bool.or_eq_true]
  by_cases fenced : reply.strip.startsWith fence = true
  · exact .inr (opens fenced)
  · left
    rw [unfence_eq_strip (eq_false_of_ne_true fenced)] at found
    obtain ⟨rest, begins⟩ := Json.exists_skip_of_read found
    rw [← Json.skip_eq_self reply.trimmed_strip, begins, Text.startsWith_singleton]
    rfl

/-! ## (2) Fields in their own kinds -/

/-- The fields that are texts. -/
def textFields : List Text := ["title", "deadline", "evaluationCriteria"]

/-- A value is marks: a text or a number. -/
def IsMarks (value : Json) : Prop := ∃ marks : Marks, value = marks.toJson

/-- Fields are given in the kinds that an assignment keeps. -/
structure Canonical (fields : List (Text × Json)) : Prop where
  /-- The number of tasks is a whole number. -/
  counted : ∃ count, Json.fieldIn? "numberOfTasks" fields = some (.int count)
  /-- Title, deadline and criteria are texts. -/
  texts : ∀ name ∈ textFields, ∃ content, Json.fieldIn? name fields = some (.text content)
  /-- The marks are a text or a number. -/
  marks : ∃ marks, Json.fieldIn? "totalMarksWeightage" fields = some marks ∧ IsMarks marks
  /-- So are those of a task, unless they are left out or null. -/
  weightages : ∀ items task weightage, Json.fieldIn? "tasks" fields = some (.list items) →
    task ∈ items → task.get? "weightage" = some weightage → weightage = .null ∨ IsMarks weightage

end Reply

/-! ## (3) One task -/

namespace Outline

/-- A text that is left empty where a value counts as not given is shown like the value. -/
theorem body_textOr (value : Option Json) (placeholder : Text) :
    body (some (.text (Reply.textOr [] value))) placeholder = body value placeholder := by
  cases value with
  | none => rfl
  | some value =>
      rw [Reply.textOr]
      by_cases void : value.isVoid = true
      · rw [if_pos void, body, body, if_pos void]
        rfl
      · rw [if_neg void, body, body, if_neg void]
        by_cases shown : value.display = []
        · simp only [shown]
          rfl
        · have given : (Json.text value.display).isVoid = false :=
            List.isEmpty_eq_false_iff.mpr shown
          rw [given]
          rfl

/-- Marks that are kept are shown like the value that they come from. -/
theorem body_taskMarks {value : Option Json} (placeholder : Text)
    (kept : ∀ weightage, value = some weightage → weightage = .null ∨ Reply.IsMarks weightage) :
    body (some (Reply.taskMarks value).toJson) placeholder = body value placeholder := by
  cases value with
  | none => rfl
  | some weightage =>
      obtain rfl | ⟨marks, rfl⟩ := kept weightage rfl
      · rfl
      · cases marks <;> rfl

/-- Tasks that are kept are shown like the objects that they come from. -/
theorem taskBlocksFrom_task (placeholders : Placeholders) (number : Nat)
    {listed : List (List (Text × Json))}
    (kept : ∀ fields ∈ listed, ∀ weightage, Json.fieldIn? "weightage" fields = some weightage →
      weightage = .null ∨ Reply.IsMarks weightage) :
    taskBlocksFrom placeholders number ((listed.map Reply.task).map Task.toJson) =
      taskBlocksFrom placeholders number (listed.map Json.object) := by
  induction listed generalizing number with
  | nil => rfl
  | cons fields listed ih =>
      obtain ⟨own, others⟩ := List.forall_mem_cons.mp kept
      have same : taskBlock placeholders number (Reply.task fields).toJson =
          taskBlock placeholders number (.object fields) := by
        have description :=
          body_textOr (Json.fieldIn? "description" fields) placeholders.description
        have weightage := body_taskMarks placeholders.weightage own
        rw [taskBlock, taskBlock]
        exact congrArg₂ (taskLine number) description weightage
      rw [List.map_cons, List.map_cons, List.map_cons, taskBlocksFrom, taskBlocksFrom, same,
        ih (number + 1) others]

/-- Tasks that are kept are shown together like the objects that they come from. -/
theorem taskBlocks_task (placeholders : Placeholders) {listed : List (List (Text × Json))}
    (kept : ∀ fields ∈ listed, ∀ weightage, Json.fieldIn? "weightage" fields = some weightage →
      weightage = .null ∨ Reply.IsMarks weightage) :
    taskBlocks placeholders (some (.list ((listed.map Reply.task).map Task.toJson))) =
      taskBlocks placeholders (some (.list (listed.map Json.object))) := by
  cases listed with
  | nil => rfl
  | cons fields listed => exact taskBlocksFrom_task placeholders 1 kept

/-- The number that is shown depends on how many tasks there are, and not on what they are. -/
theorem shownCount_eq_of_length (count : Option Json) {items others : List Json}
    (same : items.length = others.length) :
    shownCount count (some (.list items)) = shownCount count (some (.list others)) := by
  rw [shownCount, shownCount]
  cases items with
  | nil =>
      obtain rfl := List.length_eq_zero_iff.mp same.symm
      rfl
  | cons item items =>
      cases others with
      | nil => cases same
      | cons other others =>
          simp only [listed]
          rw [same]

/-! ## (4) The whole document -/

section Fields

variable {fields : List (Text × Json)} {expected : Nat} {listed : List (List (Text × Json))}
  {record : Record}

/-- A text that is shown is the text that was given. -/
theorem fieldIn?_of_shown {name shown : Text} (seen : Reply.Shown fields name shown)
    (given : ∃ content, Json.fieldIn? name fields = some (.text content)) :
    Json.fieldIn? name fields = some (.text shown) := by
  obtain ⟨content, found⟩ := given
  obtain ⟨value, again, rfl⟩ := seen
  obtain rfl := Option.some.inj (found.symm.trans again)
  exact found

/-- The number of tasks is the one that was given. -/
theorem fieldIn?_numberOfTasks (canonical : Reply.Canonical fields)
    (describes : Reply.Describes fields expected listed) :
    Json.fieldIn? "numberOfTasks" fields = some (.int expected) := by
  obtain ⟨count, found⟩ := canonical.counted
  obtain ⟨value, again, leads⟩ := describes.counted
  obtain rfl := Option.some.inj (found.symm.trans again)
  cases leads
  exact found

/-- The marks are those that were given. -/
theorem fieldIn?_totalMarks (canonical : Reply.Canonical fields)
    (assembled : Reply.Assembled fields expected listed record) :
    Json.fieldIn? "totalMarksWeightage" fields = some record.totalMarks.toJson := by
  obtain ⟨value, found, marks, rfl⟩ := canonical.marks
  obtain ⟨other, again, kept⟩ := assembled.totalMarks
  obtain rfl := Option.some.inj (found.symm.trans again)
  rw [found, kept]
  cases marks <;> rfl

/-- The document of fields in their own kinds is that of the assignment that they describe, if no
task is left out. -/
theorem renderFields_eq_render (placeholders : Placeholders) (canonical : Reply.Canonical fields)
    (describes : Reply.Describes fields expected listed)
    (assembled : Reply.Assembled fields expected listed record)
    (exact : expected = listed.length) :
    renderFields placeholders fields = render placeholders record := by
  have title := fieldIn?_of_shown assembled.title (canonical.texts _ (by simp [Reply.textFields]))
  have deadline :=
    fieldIn?_of_shown assembled.deadline (canonical.texts _ (by simp [Reply.textFields]))
  have criteria :=
    fieldIn?_of_shown assembled.criteria (canonical.texts _ (by simp [Reply.textFields]))
  have count := fieldIn?_numberOfTasks canonical describes
  have marks := fieldIn?_totalMarks canonical assembled
  have tasks : record.tasks = listed.map Reply.task := by
    rw [assembled.tasks_eq, exact, List.take_length]
  have kept : ∀ inner ∈ listed, ∀ weightage, Json.fieldIn? "weightage" inner = some weightage →
      weightage = .null ∨ Reply.IsMarks weightage := fun inner member weightage found =>
    canonical.weightages _ (.object inner) weightage describes.tasks
      (List.mem_map_of_mem member) found
  have same : (listed.map Json.object).length =
      ((listed.map Reply.task).map Task.toJson).length := by
    simp
  have equal : blocks placeholders fields =
      blocks placeholders (record.toJson.toFields?.getD []) := by
    rw [blocks]
    dsimp only
    rw [title, deadline, criteria, count, marks, describes.tasks,
      shownCount_eq_of_length _ same, ← taskBlocks_task placeholders kept, ← tasks,
      ← assembled.taskCount]
    rfl
  rw [render, renderJson, renderFields, renderFields, equal]

end Fields

end Outline

/-! ## (5) Contents -/

/-- A content whose markdown is known is compiled from that. -/
theorem Content.compile_of_markdown {placeholders : Placeholders} {content : Content}
    {document : Text} (shown : content.markdown placeholders = .ok document) :
    content.compile placeholders = Compilation.ofMarkdown document := by
  rw [compile, shown]
  simp only [bind, Except.bind]

/-- A reply that is accepted without a surplus of tasks, stands bare or in a fence for JSON and
gives its fields in their own kinds is the same content as its assignment, and as the document of
that: the same markdown is inserted, and compiled to the same operations. -/
theorem Content.markdown_eq_of_accepted {reply : Text} {accepted : Reply.Accepted}
    {fields : List (Text × Json)} (opens : Reply.OpensJson reply)
    (valid : Reply.validate (.text reply) = .ok accepted) (exact : accepted.noticed = [])
    (found : Json.read (Reply.unfence reply) = .ok (.object fields))
    (canonical : Reply.Canonical fields) (placeholders : Placeholders) :
    ∃ document, ∀ content ∈ [Content.value (.text reply), .record accepted.record,
        .value (.text (Outline.render placeholders accepted.record))],
      content.markdown placeholders = .ok document ∧
        content.compile placeholders = Compilation.ofMarkdown document := by
  obtain ⟨others, expected, listed, answers, assembled, noticed⟩ :=
    Reply.validate_eq_ok_iff.mp valid
  -- the fields that were accepted are those that are found
  obtain ⟨_, ⟨⟩, again⟩ := answers.read
  obtain ⟨⟩ := found.symm.trans again
  have enough := answers.describes.enough
  have all : expected = listed.length := by
    by_contra fewer
    rw [exact, Reply.surplus, if_pos (by omega)] at noticed
    cases noticed
  have same := Outline.renderFields_eq_render placeholders canonical answers.describes assembled all
  have decoded : Reply.decode (.text reply) = .ok fields :=
    Reply.decodeUnfenced_eq_ok_iff.mpr found
  have bare : Content.markdown placeholders (.value (.text reply)) =
      .ok (Outline.render placeholders accepted.record) := by
    rw [Content.markdown_text, markdownOfText, if_pos (Reply.looksLikeJson_of_read opens found),
      decoded, ← same]
    rfl
  refine ⟨Outline.render placeholders accepted.record, ?_⟩
  intro content member
  have shown : content.markdown placeholders =
      .ok (Outline.render placeholders accepted.record) := by
    simp only [List.mem_cons, List.not_mem_nil, or_false] at member
    rcases member with rfl | rfl | rfl
    · exact bare
    · rfl
    · exact Content.markdown_render placeholders placeholders accepted.record
  exact ⟨shown, Content.compile_of_markdown shown⟩

/-- The fields of a reply whose tasks leave out their text or their marks, or give another kind. -/
def looseFields : List (Text × Json) :=
  [("deadline", .text "now"), ("title", .text "#"), ("totalMarksWeightage", .int 10),
    ("evaluationCriteria", .text "none"), ("numberOfTasks", .int 2), ("language", .bool false),
    ("tasks", .list [.object [("description", .list [.int 1])],
      .object [("weightage", .null), ("description", .int 0)]])]

/-- Such a reply. -/
def looseReply : Text :=
  ("```json\n" : Text) ++ Json.write .compact (.object looseFields) ++ "\n```"

theorem legible_looseFields : Json.Legible (.object looseFields) := by
  have first : Json.Legible (.object [("description", .list [.int 1])]) := by
    refine .object (by decide) (by decide) ?_
    simp only [List.forall_mem_singleton]
    refine .list ?_
    simp only [List.forall_mem_singleton]
    exact .int (by decide)
  have second : Json.Legible (.object [("weightage", .null), ("description", .int 0)]) := by
    refine .object (by decide) (by decide) ?_
    simp only [List.forall_mem_cons, List.not_mem_nil, false_implies, implies_true, and_true]
    exact ⟨.null, .int (by decide)⟩
  refine .object (by decide) (by decide) ?_
  simp only [looseFields, List.forall_mem_cons, List.not_mem_nil, false_implies, implies_true,
    and_true]
  refine ⟨.text (by decide), .text (by decide), .int (by decide), .text (by decide),
    .int (by decide), .bool false, .list ?_⟩
  simp only [List.forall_mem_cons, List.not_mem_nil, false_implies, implies_true, and_true]
  exact ⟨first, second⟩

/-- The reply is accepted, and its three contents are one document. -/
theorem Content.markdown_eq_of_accepted_loose :
    ∃ accepted, Reply.OpensJson looseReply ∧
      Reply.validate (.text looseReply) = .ok accepted ∧ accepted.noticed = [] ∧
      Json.read (Reply.unfence looseReply) = .ok (.object looseFields) ∧
      Reply.Canonical looseFields ∧
      ∀ placeholders, ∃ document, ∀ content ∈ [Content.value (.text looseReply),
          .record accepted.record, .value (.text (Outline.render placeholders accepted.record))],
        content.markdown placeholders = .ok document ∧
          content.compile placeholders = Compilation.ofMarkdown document := by
  have opens : Reply.OpensJson looseReply := by
    intro _
    decide +kernel
  have found : Json.read (Reply.unfence looseReply) = .ok (.object looseFields) :=
    (Reply.carries_fenced _).read_unfence (List.cons_ne_nil _ _) legible_looseFields
  have valid : (Reply.validate (.text looseReply)).isOk = true := by decide +kernel
  obtain ⟨accepted, valid⟩ := Outcome.exists_of_isOk valid
  have exact : accepted.noticed = [] := by
    have noticed : (Reply.validate (.text looseReply)).toOption.map Reply.Accepted.noticed =
        some [] := by decide +kernel
    rw [valid] at noticed
    exact Option.some.inj noticed
  have canonical : Reply.Canonical looseFields := {
    counted := ⟨2, rfl⟩
    texts := by
      simp only [Reply.textFields, List.forall_mem_cons, List.not_mem_nil, false_implies,
        implies_true, and_true]
      exact ⟨⟨_, rfl⟩, ⟨_, rfl⟩, ⟨_, rfl⟩⟩
    marks := ⟨_, rfl, .int 10, rfl⟩
    weightages := by
      rintro items task weightage ⟨⟩ member given
      simp only [List.mem_cons, List.not_mem_nil, or_false] at member
      rcases member with rfl | rfl
      · cases given
      · cases given
        exact .inl rfl }
  exact ⟨accepted, opens, valid, exact, found, canonical,
    markdown_eq_of_accepted opens valid exact found canonical⟩

end Coursework
