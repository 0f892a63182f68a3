import Coursework.Proofs.Assignment.Acceptance
import Coursework.Proofs.Assignment.Fences
import Coursework.Proofs.Json.RoundTrip

/-! # An assignment as a reply

An assignment can be written as the object that a reply spells. Where the assignment is complete
and gives every field that a reply must give, it comes back exactly as it was from such a reply,
in whatever layout it is written, bare or between fences, and nothing is noticed.

* **`Record.Expressible`** are the assignments that come back, **`Marks.Expressible`** the marks.
* **`Record.legible_toJson`** says that their objects are read back, **`Record.describes_toJson`**
  and **`Record.assembled_toJson`** that the objects describe them.
* **`Record.validateInto_write`** is the statement about replies. -/

namespace Coursework

/-! ## (1) Assignments that come back -/

/-- Marks that come back: a text without surrogates, or a whole number within the limit of
digits. -/
inductive Marks.Expressible : Marks → Prop
  /-- A text has no surrogates. -/
  | text {value : Text} (scalar : Text.IsScalar value) : Expressible (.text value)
  /-- A whole number is within the limit of digits. -/
  | int {number : Int} (short : Json.Short number) : Expressible (.int number)

/-- An assignment that comes back from a reply. -/
structure Record.Expressible (record : Record) : Prop where
  /-- The number of tasks is that of the tasks listed. -/
  complete : record.Complete
  /-- Title, deadline and criteria are not blank. -/
  shown : ∀ content ∈ [record.title, record.deadline, record.criteria], content.isBlank = false
  /-- Neither are the marks, if they are a text. -/
  marked : ∀ content, record.totalMarks = .text content → content.isBlank = false
  /-- Language and instructions are not empty. -/
  given : record.language ≠ [] ∧ record.instructions ≠ []
  /-- The texts have no surrogates. -/
  scalar : ∀ content ∈ [record.title, record.deadline, record.criteria, record.language,
    record.instructions] ++ record.tasks.map Task.description, Text.IsScalar content
  /-- Neither have the marks, whose numbers are within the limit of digits. -/
  marks : ∀ marks ∈ record.totalMarks :: record.tasks.map Task.weightage, marks.Expressible
  /-- So is the number of tasks. -/
  counted : Json.Short record.taskCount

/-! ## (2) The object is read back -/

theorem Marks.Expressible.legible {marks : Marks} (expressible : marks.Expressible) :
    marks.toJson.Legible := by
  cases expressible with
  | text scalar => exact .text scalar
  | int short => exact .int short

/-- The fields of a task. -/
def Task.fields (task : Task) : List (Text × Json) :=
  [("description", .text task.description), ("weightage", task.weightage.toJson)]

/-- The object of a task is read back. -/
theorem Task.legible_toJson {task : Task} (scalar : Text.IsScalar task.description)
    (expressible : task.weightage.Expressible) : task.toJson.Legible := by
  have distinct : (["description", "weightage"] : List Text).Nodup := by decide
  have named : ∀ name ∈ (["description", "weightage"] : List Text), Text.IsScalar name := by
    decide
  refine .object distinct named ?_
  intro field member
  simp only [List.mem_cons, List.not_mem_nil, or_false] at member
  rcases member with rfl | rfl
  · exact .text scalar
  · exact expressible.legible

namespace Record

/-- The fields of an assignment. -/
def fields (record : Record) : List (Text × Json) :=
  [("title", .text record.title), ("deadline", .text record.deadline),
    ("totalMarksWeightage", record.totalMarks.toJson),
    ("evaluationCriteria", .text record.criteria), ("numberOfTasks", .int record.taskCount),
    ("tasks", .list (record.tasks.map Task.toJson)), ("language", .text record.language),
    ("additionalInstructions", .text record.instructions)]

/-- Their names. -/
def fieldNames : List Text :=
  ["title", "deadline", "totalMarksWeightage", "evaluationCriteria", "numberOfTasks", "tasks",
    "language", "additionalInstructions"]

variable {record : Record}

/-- The object of an assignment is read back. -/
theorem legible_toJson (expressible : record.Expressible) : record.toJson.Legible := by
  have distinct : fieldNames.Nodup := by decide
  have named : ∀ name ∈ fieldNames, Text.IsScalar name := by decide
  have scalar := expressible.scalar
  have marks := expressible.marks
  simp only [List.cons_append, List.nil_append, List.forall_mem_cons] at scalar marks
  obtain ⟨title, deadline, criteria, language, instructions, descriptions⟩ := scalar
  obtain ⟨total, weightages⟩ := marks
  have tasks : ∀ item ∈ record.tasks.map Task.toJson, item.Legible := by
    intro item member
    obtain ⟨task, listed, rfl⟩ := List.mem_map.mp member
    exact Task.legible_toJson (descriptions _ (List.mem_map_of_mem listed))
      (weightages _ (List.mem_map_of_mem listed))
  refine .object distinct named ?_
  intro field member
  simp only [List.mem_cons, List.not_mem_nil, or_false] at member
  rcases member with rfl | rfl | rfl | rfl | rfl | rfl | rfl | rfl
  · exact .text title
  · exact .text deadline
  · exact total.legible
  · exact .text criteria
  · exact .int expressible.counted
  · exact .list tasks
  · exact .text language
  · exact .text instructions

/-! ## (3) The object describes the assignment -/

/-- Every required field is given. -/
theorem given_fields (expressible : record.Expressible) :
    ∀ name ∈ Reply.requiredFields, Reply.Given record.fields name := by
  have shown := expressible.shown
  simp only [List.forall_mem_cons] at shown
  obtain ⟨title, deadline, criteria, -⟩ := shown
  have text {name content : Text} (found : Json.fieldIn? name record.fields = some (.text content))
      (solid : content.isBlank = false) : Reply.Given record.fields name := by
    refine ⟨.text content, found, by simp, ?_⟩
    rintro other ⟨⟩
    exact solid
  have marks : Reply.Given record.fields "totalMarksWeightage" := by
    refine ⟨record.totalMarks.toJson, rfl, ?_, ?_⟩
    · cases record.totalMarks <;> simp [Marks.toJson]
    · intro content spelled
      cases total : record.totalMarks with
      | text value =>
          rw [total] at spelled
          obtain rfl := Json.text.inj spelled
          exact expressible.marked value total
      | int _ | float _ =>
          rw [total] at spelled
          cases spelled
  simp only [Reply.requiredFields, List.forall_mem_cons, List.not_mem_nil, false_implies,
    implies_true, and_true]
  exact ⟨text rfl title, text rfl deadline, marks, text rfl criteria,
    ⟨.int record.taskCount, rfl, by simp, by simp⟩, ⟨_, rfl, by simp, by simp⟩⟩

/-- The object of an assignment describes it. -/
theorem describes_toJson (expressible : record.Expressible) :
    Reply.Describes record.fields record.taskCount (record.tasks.map Task.fields) where
  given := given_fields expressible
  scalar := by
    simp only [Reply.scalarFields, List.forall_mem_cons, List.not_mem_nil, false_implies,
      implies_true, and_true]
    refine ⟨?_, ?_, ?_, ?_⟩
    · rintro value ⟨⟩
      simp [Reply.IsScalar]
    · rintro value ⟨⟩
      simp [Reply.IsScalar]
    · rintro value ⟨⟩
      cases record.totalMarks <;> simp [Reply.IsScalar, Marks.toJson]
    · rintro value ⟨⟩
      simp [Reply.IsScalar]
  counted := ⟨.int record.taskCount, rfl, rfl⟩
  tasks := by
    rw [List.map_map]
    rfl
  enough := by
    rw [List.length_map]
    exact Nat.le_of_eq expressible.complete.symm

/-- A task is read from its own fields. -/
theorem task_fields (task : Task) : Reply.task task.fields = task := by
  obtain ⟨description, weightage⟩ := task
  have text : Reply.textOr [] (some (.text description)) = description := by
    cases description <;> rfl
  have marks : Reply.taskMarks (some weightage.toJson) = weightage := by
    cases weightage <;> rfl
  exact congrArg₂ Task.mk text marks

/-- A text that is not empty is not replaced. -/
theorem textOr_text {default content : Text} (some : content ≠ []) :
    Reply.textOr default (.some (.text content)) = content :=
  if_neg (mt List.isEmpty_iff.mp some)

/-- The object of an assignment gives that assignment. -/
theorem assembled_toJson (expressible : record.Expressible) :
    Reply.Assembled record.fields record.taskCount (record.tasks.map Task.fields) record where
  title := ⟨.text record.title, rfl, rfl⟩
  deadline := ⟨.text record.deadline, rfl, rfl⟩
  criteria := ⟨.text record.criteria, rfl, rfl⟩
  totalMarks := ⟨record.totalMarks.toJson, rfl, by cases record.totalMarks <;> rfl⟩
  taskCount := rfl
  complete := expressible.complete
  tasks := by
    have all : record.tasks.map Task.fields =
        (record.tasks.map Task.fields).take record.taskCount := by
      rw [← expressible.complete, ← List.length_map Task.fields, List.take_length]
    rw [← all, Reply.forall₂_taskOf_iff, List.map_map]
    exact (List.map_id'' task_fields record.tasks).symm
  language := Reply.shownOr_iff.mpr (textOr_text expressible.given.1).symm
  instructions := Reply.shownOr_iff.mpr (textOr_text expressible.given.2).symm

/-! ## (4) Replies -/

/-- An assignment comes back from every reply that carries it, in whatever layout it is written,
and nothing is noticed. -/
theorem validateInto_write (expressible : record.Expressible) (layout : Layout)
    (noticed : List Diagnostic) {reply : Text}
    (carries : Reply.Carries (Json.write layout record.toJson) reply) :
    Reply.validateInto noticed (.text reply) = (.ok record, noticed) := by
  have some : record.fields ≠ [] := List.cons_ne_nil _ _
  have read : Json.read (Reply.unfence reply) = .ok (.object record.fields) :=
    Reply.Carries.read_unfence carries some (legible_toJson expressible)
  have answers : Reply.Answers (.text reply) record.fields record.taskCount
      (record.tasks.map Task.fields) :=
    ⟨⟨reply, rfl, read⟩, describes_toJson expressible⟩
  -- there are just as many tasks as announced
  have exact : [] = Reply.surplus record.taskCount (record.tasks.map Task.fields).length := by
    rw [List.length_map, expressible.complete, Reply.surplus, if_neg (Nat.lt_irrefl _)]
  have valid : Reply.validate (.text reply) = .ok ⟨record, []⟩ :=
    Reply.validate_eq_ok_iff.mpr ⟨_, _, _, answers, assembled_toJson expressible, exact⟩
  rw [Reply.validateInto, valid]
  exact congrArg (Prod.mk _) (List.append_nil noticed)

/-- An assignment whose texts hold fences, quotes, line ends and a sign beyond ASCII, or nothing. -/
def fencedRecord : Record where
  title := "```json\n"
  deadline := "\"\\"
  totalMarks := .int (-1)
  criteria := [0x1F600]
  taskCount := 2
  tasks := [⟨[], .text " "⟩, ⟨"\t```", .int 0⟩]
  language := " "
  instructions := "\x7d"

/-- It comes back from a reply between fences, written on several lines. -/
theorem validateInto_write_fenced :
    fencedRecord.Expressible ∧
      Reply.validateInto [] (.text (("```json\n" : Text) ++
          Json.write (.indented 2) fencedRecord.toJson ++ "\n```")) =
        (.ok fencedRecord, []) := by
  have expressible : fencedRecord.Expressible := {
    complete := by decide
    shown := by decide
    marked := by
      rintro content ⟨⟩
    given := by decide
    scalar := by decide
    marks := by
      intro marks member
      simp only [fencedRecord, List.map_cons, List.map_nil, List.mem_cons, List.not_mem_nil,
        or_false] at member
      rcases member with rfl | rfl | rfl
      · exact .int (by decide)
      · exact .text (by decide)
      · exact .int (by decide)
    counted := by decide }
  exact ⟨expressible, validateInto_write expressible (.indented 2) [] (Reply.carries_fenced _)⟩

end Record

end Coursework
