import Coursework.Proofs.Assignment.Acceptance
import Coursework.Proofs.Outline.Pieces
import Coursework.Proofs.Outline.Retention
import Mathlib.Tactic.IntervalCases

/-! # The tasks of a document

The document of an assignment, taken apart at its blank lines, has one piece for each task, in order
and numbered from 1, between the heading of the tasks and that of the marks. Only an assignment
without tasks is different: its document has the placeholder tasks in their place.

* **`Outline.shownValue`** is what a document shows of a value.
* **`Outline.taskParagraphs`** are the pieces of tasks, **`Outline.LaidOut`** gives a document with
  these pieces among the others.
* **`Outline.laidOut_of_accepted`** is the main statement. -/

namespace Coursework.Outline

/-! ## (1) Values -/

/-- What a document shows of a value: the placeholder if the value counts as not given or is blank,
else its normalised text. -/
def shownValue (placeholder : Text) (value : Json) : Text :=
  if value.isVoid || value.display.isBlank then placeholder else normalise value.display

/-- Folding leaves a blank text blank. -/
theorem isBlank_fold_of_isBlank {text : Text} (blank : text.isBlank = true) :
    Text.isBlank (foldBlankLines (dropReturns text)) = true := by
  rw [Text.isBlank, List.all_eq_true] at blank ⊢
  intro sign member
  rcases mem_foldFrom member with member | rfl
  · exact blank sign (mem_dropReturns member)
  · rfl

/-- Folding leaves a sign to see. -/
theorem isBlank_fold_of_shown {text : Text} (shown : text.isBlank = false) :
    Text.isBlank (foldBlankLines (dropReturns text)) = false := by
  refine isBlank_foldBlankLines ?_
  rw [Text.isBlank, List.all_eq_false] at shown ⊢
  obtain ⟨sign, member, solid⟩ := shown
  exact ⟨sign, mem_dropReturns_of_solid (Bool.eq_false_iff.mpr solid) member, solid⟩

theorem body_some (value : Json) (placeholder : Text) :
    body (some value) placeholder = shownValue placeholder value := by
  rw [body, shownValue]
  cases void : value.isVoid with
  | true => rfl
  | false =>
      cases blank : value.display.isBlank with
      | true => simp [isBlank_fold_of_isBlank blank]
      | false => simp [isBlank_fold_of_shown blank]

/-- A text without line feeds is not folded. -/
theorem foldBlankLines_of_not_mem {text : Text} (absent : Sign.newline ∉ text) :
    foldBlankLines text = text := by
  rw [foldBlankLines]
  induction text with
  | nil => rfl
  | cons sign text ih =>
      rw [List.mem_cons, not_or] at absent
      rw [foldBlankLinesFrom, ih absent.2]
      simp [Ne.symm absent.1]

/-- A numeral opens no block. -/
theorem escapeLine_ofNat (number : Nat) :
    (Text.ofNat number).strip = Text.ofNat number ∧
      escapeLine (Text.ofNat number) = Text.ofNat number := by
  have digit {sign : Nat} (member : sign ∈ Text.ofNat number) : 48 ≤ sign ∧ sign ≤ 57 := by
    have h := Text.isDigit_of_mem_ofNat member
    rwa [Sign.isDigit, Bool.and_eq_true, decide_eq_true_eq, decide_eq_true_eq] at h
  have solid {sign : Nat} (member : sign ∈ Text.ofNat number) : Sign.isBlank sign = false := by
    obtain ⟨least, most⟩ := digit member
    interval_cases sign <;> rfl
  have trimmed : (Text.ofNat number).strip = Text.ofNat number :=
    Text.strip_eq_self ⟨fun sign h => solid (List.mem_of_mem_head? h),
      fun sign h => solid (List.mem_of_getLast? h)⟩
  have escaped := escaped_escapeLine (Text.ofNat number)
  rw [trimmed] at escaped
  refine ⟨trimmed, ?_⟩
  -- neither a point or parenthesis nor a sign that opens a block is a digit
  generalize escapeLine (Text.ofNat number) = line at escaped
  cases escaped with
  | ordered ordered =>
      have mark := digit (ordered.parts ▸ List.mem_append_right _ List.mem_cons_self)
      rcases ordered.closes with rfl | rfl <;> exact absurd mark (by decide)
  | @opening sign rest same opens =>
      obtain ⟨least, most⟩ := digit (same ▸ List.mem_cons_self : sign ∈ Text.ofNat number)
      interval_cases sign <;> cases opens
  | plain _ _ => rfl

/-- A number is shown as its numeral. -/
theorem normalise_ofNat (number : Nat) : normalise (Text.ofNat number) = Text.ofNat number := by
  have absent {sign : Nat} (other : Sign.isDigit sign = false) : sign ∉ Text.ofNat number := by
    intro member
    rw [Text.isDigit_of_mem_ofNat member] at other
    cases other
  obtain ⟨trimmed, escaped⟩ := escapeLine_ofNat number
  rw [normalise, dropReturns_of_not_mem (absent rfl), foldBlankLines_of_not_mem (absent rfl),
    trimmed, Text.lines, Text.splitAt_of_not_mem (absent rfl), List.map_singleton, escaped,
    Text.joinWith_singleton]

theorem shownValue_ofNat (placeholder : Text) {number : Nat} (positive : 1 ≤ number) :
    shownValue placeholder (.int number) = Text.ofNat number := by
  have given : (Json.int number).isVoid = false := by
    rw [Json.isVoid, beq_eq_false_iff_ne]
    omega
  have display : (Json.int number).display = Text.ofNat number := rfl
  have shown : (Text.ofNat number).isBlank = false := by
    refine Bool.eq_false_iff.mpr fun blank => Text.ofNat_ne_nil number ?_
    rw [← (escapeLine_ofNat number).1, Text.strip_eq_nil_iff, blank]
  rw [shownValue, given, display, shown, normalise_ofNat]
  rfl

/-! ## (2) Tasks -/

/-- The piece of a document for a task, whose place counts from 0. -/
def taskParagraph (place : Nat) (task : Task) : Text :=
  taskLine (place + 1) (shownValue "No description provided" (.text task.description))
    (shownValue "Not specified" task.weightage.toJson)

/-- The pieces for tasks, in order. -/
def taskParagraphs (tasks : List Task) : List Text := tasks.mapIdx taskParagraph

/-- The blocks of tasks are these pieces. -/
theorem taskBlocksFrom_usual (tasks : List Task) :
    taskBlocksFrom .usual 1 (tasks.map Task.toJson) = taskParagraphs tasks := by
  have own (place : Nat) (task : Task) :
      taskBlock .usual (1 + place) task.toJson = taskParagraph place task := by
    rw [taskBlock, taskParagraph, ← body_some, ← body_some, Nat.add_comm]
    rfl
  rw [taskBlocksFrom_eq_mapIdx, taskParagraphs]
  refine List.ext_getElem (by simp) fun place _ _ => ?_
  rw [List.getElem_mapIdx, List.getElem_mapIdx, List.getElem_map, own]

/-! ## (3) Documents -/

/-- The document of an assignment is taken apart into its title and five sections, with these
pieces for the number of tasks and for the tasks. -/
def LaidOut (record : Record) (count : Text) (tasks : List Text) : Prop :=
  (render .usual record).paragraphs =
    [("# " : Text) ++ heading (some (.text record.title)) "Untitled Assignment",
      "## Deadline", shownValue "Deadline not specified" (.text record.deadline),
      "## Number of Tasks", count,
      "## Tasks"] ++ tasks ++
    [("## Total Weightage Marks" : Text), shownValue "100" record.totalMarks.toJson,
      "## Evaluation Criteria",
      shownValue "Auto-generated evaluation criteria" (.text record.criteria)]

theorem laidOut_of_blocks {record : Record} {count : Text} {tasks : List Text}
    (hcount : body (shownCount (some (.int record.taskCount))
      (some (.list (record.tasks.map Task.toJson)))) "Not specified" = count)
    (htasks : taskBlocks .usual (some (.list (record.tasks.map Task.toJson))) = tasks) :
    LaidOut record count tasks := by
  rw [LaidOut, render, renderJson, paragraphs_renderFields separable_usual]
  simp only [← body_some, ← hcount, ← htasks]
  rfl

/-- An assignment with tasks shows them and their number. -/
theorem laidOut_of_tasks {record : Record} (complete : record.Complete)
    (some : 1 ≤ record.taskCount) :
    LaidOut record (Text.ofNat record.taskCount) (taskParagraphs record.tasks) := by
  have tasks : listed (.some (.list (record.tasks.map Task.toJson))) ≠ [] := by
    intro none
    have empty : record.tasks = [] := List.map_eq_nil_iff.mp none
    rw [Record.Complete, empty] at complete
    exact absurd complete (Nat.ne_of_lt some)
  refine laidOut_of_blocks ?_ ?_
  · have given : (Json.int record.taskCount).isVoid = false := by
      rw [Json.isVoid, beq_eq_false_iff_ne]
      omega
    rw [shownCount, Option.getD_some, given, if_neg Bool.false_ne_true, body_some,
      shownValue_ofNat _ some]
  · rw [taskBlocks]
    split
    · exact absurd ‹_› tasks
    · exact taskBlocksFrom_usual record.tasks

/-- An assignment without tasks shows the placeholder tasks. -/
theorem laidOut_of_none {record : Record} (complete : record.Complete)
    (none : record.taskCount = 0) :
    LaidOut record "Not specified" (taskParagraphs Placeholders.usual.tasks) := by
  have empty : record.tasks = [] := List.length_eq_zero_iff.mp (complete.trans none)
  refine laidOut_of_blocks ?_ ?_
  · rw [none, empty]
    rfl
  · rw [empty]
    exact taskBlocksFrom_usual Placeholders.usual.tasks

/-- **The document of an accepted reply shows the tasks of its assignment.** There are as many as
announced. If there are any, the document has their number and one piece for each of them, in
order and numbered from 1; a placeholder stands only for a text or marks that count as not given or
are blank. Without tasks it has the placeholders for the number and for the tasks. -/
theorem laidOut_of_accepted {reply : Text} {accepted : Reply.Accepted}
    (valid : Reply.validate (.text reply) = .ok accepted) :
    let record := accepted.record
    record.tasks.length = record.taskCount ∧
      (1 ≤ record.taskCount →
        LaidOut record (Text.ofNat record.taskCount) (taskParagraphs record.tasks)) ∧
      (record.taskCount = 0 →
        LaidOut record "Not specified" (taskParagraphs Placeholders.usual.tasks)) := by
  obtain ⟨fields, expected, listed, -, assembled, -⟩ := Reply.validate_eq_ok_iff.mp valid
  have complete := assembled.complete
  exact ⟨complete, laidOut_of_tasks complete, laidOut_of_none complete⟩

/-! ## (4) Two replies -/

/-- A reply that announces and lists the given tasks. -/
def sampleReply (count tasks : Text) : Text :=
  ("\x7b\"title\":\"T\",\"deadline\":\"D\",\"totalMarksWeightage\":1," : Text) ++
    "\"evaluationCriteria\":\"C\",\"numberOfTasks\":" ++ count ++ ",\"tasks\":" ++ tasks ++ "\x7d"

/-- Its assignment. -/
def sampleRecord (tasks : List Task) : Record where
  title := "T"
  deadline := "D"
  totalMarks := .int 1
  criteria := "C"
  taskCount := tasks.length
  tasks := tasks

/-- A reply that is read as an object is as good as the object. -/
theorem validate_of_read {reply : Text} {fields : List (Text × Json)}
    (within : Reply.unfence reply = reply) (read : Json.read reply = .ok (.object fields)) :
    Reply.validate (.text reply) = Reply.assemble reply fields := by
  have steps : Reply.validate (.text reply) =
      Reply.decodeUnfenced (Reply.unfence reply) (.text reply) >>=
        Reply.assemble (Reply.unfence reply) := rfl
  rw [steps, within, Reply.decodeUnfenced_eq_ok_iff.mpr read]
  rfl

/-- A task without marks is shown with the placeholder for them, and counted. -/
theorem laidOut_of_accepted_unmarked :
    LaidOut (sampleRecord [⟨"d", .text []⟩]) "1"
      ["Task 1: d (Weightage: Not specified marks)"] := by
  have read : Json.read (sampleReply "1" "[\x7b\"description\":\"d\"\x7d]") =
      .ok (.object [("title", .text "T"), ("deadline", .text "D"),
        ("totalMarksWeightage", .int 1), ("evaluationCriteria", .text "C"),
        ("numberOfTasks", .int 1), ("tasks", .list [.object [("description", .text "d")]])]) := by
    cbv
  have valid : Reply.validate (.text (sampleReply "1" "[\x7b\"description\":\"d\"\x7d]")) =
      .ok ⟨sampleRecord [⟨"d", .text []⟩], []⟩ :=
    (validate_of_read (by decide +kernel) read).trans rfl
  have shown : taskParagraphs [⟨"d", .text []⟩] =
      [("Task 1: d (Weightage: Not specified marks)" : Text)] := by decide +kernel
  rw [← shown]
  exact (laidOut_of_accepted valid).2.1 (by decide)

/-- A reply without tasks is accepted, but its document has three tasks and no number of them. -/
theorem not_laidOut_idle :
    Reply.validate (.text (sampleReply "0" "[]")) = .ok ⟨sampleRecord [], []⟩ ∧
      LaidOut (sampleRecord []) "Not specified"
        ["Task 1: Auto-generated Task 1 details (Weightage: Auto-generated weightage marks)",
          "Task 2: Auto-generated Task 2 details (Weightage: Auto-generated weightage marks)",
          "Task 3: Auto-generated Task 3 details (Weightage: Auto-generated weightage marks)"] ∧
      ¬LaidOut (sampleRecord []) "0" [] := by
  have read : Json.read (sampleReply "0" "[]") =
      .ok (.object [("title", .text "T"), ("deadline", .text "D"),
        ("totalMarksWeightage", .int 1), ("evaluationCriteria", .text "C"),
        ("numberOfTasks", .int 0), ("tasks", .list [])]) := by
    cbv
  have shown : taskParagraphs Placeholders.usual.tasks =
      [("Task 1: Auto-generated Task 1 details (Weightage: Auto-generated weightage marks)" : Text),
        "Task 2: Auto-generated Task 2 details (Weightage: Auto-generated weightage marks)",
        "Task 3: Auto-generated Task 3 details (Weightage: Auto-generated weightage marks)"] := by
    decide +kernel
  have laidOut := @laidOut_of_none (sampleRecord []) rfl rfl
  refine ⟨(validate_of_read (by decide +kernel) read).trans rfl, shown ▸ laidOut, fun none => ?_⟩
  have lengths := congrArg List.length (laidOut.symm.trans none)
  simp only [shown, List.length_append, List.length_cons, List.length_nil] at lengths
  omega

end Coursework.Outline
