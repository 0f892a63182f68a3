import Coursework.Proofs.Outline.Fidelity
import Coursework.Proofs.Outline.Tasks

/-! # Texts found again in a document

A document that is taken apart at its blank lines gives the texts of its fields and tasks back, each
in its place between the headings of the sections. A field shows its own normalised text if it has
one, and its placeholder only if it has none: a value that is not given or counts as not given, such
as zero, has no text.

* **`Outline.ownText`** and **`Outline.ownTitle`** are the texts of a value.
* **`Sheet.own`** are the texts of an object, **`Sheet.filled`** has placeholders in place of the
  empty ones, **`Sheet.pieces`** are the pieces that they make up.
* **`Outline.blocks_eq_pieces`**: a document has these pieces for its blocks.
* **`Outline.recoverable`** is the main statement. -/

namespace Coursework.Outline

/-! ## (1) Own texts -/

/-- The normalised text of a value, empty if the value is not given or counts as not given. -/
def ownText : Option Json → Text
  | none => []
  | some value => if value.isVoid then [] else normalise value.display

/-- The words of a value on one line, none if the value is not given or counts as not given. -/
def ownTitle : Option Json → Text
  | none => []
  | some value => if value.isVoid then [] else foldLine value.display

/-- A text, or the placeholder if it is empty. -/
def orElse (placeholder text : Text) : Text := if text.isEmpty then placeholder else text

theorem orElse_of_ne_nil {text : Text} (shown : text ≠ []) (placeholder : Text) :
    orElse placeholder text = text :=
  if_neg (mt List.isEmpty_iff.mp shown)

/-- Nothing is left of a blank text. -/
theorem normalise_of_isBlank {text : Text} (blank : text.isBlank = true) : normalise text = [] := by
  rw [normalise, Text.strip_eq_nil_iff.mpr (isBlank_fold_of_isBlank blank)]
  rfl

theorem normalise_ne_nil {text : Text} (shown : text.isBlank = false) : normalise text ≠ [] := by
  refine (trimmed_normalise fun none => ?_).1
  have blank := Text.strip_eq_nil_iff.mp none
  rw [isBlank_fold_of_shown shown] at blank
  cases blank

theorem body_eq_orElse (value : Option Json) (placeholder : Text) :
    body value placeholder = orElse placeholder (ownText value) := by
  cases value with
  | none => rfl
  | some value =>
      rw [body_some, shownValue, ownText]
      cases value.isVoid with
      | true => rfl
      | false =>
          cases blank : value.display.isBlank with
          | true => rw [normalise_of_isBlank blank]; rfl
          | false => exact (orElse_of_ne_nil (normalise_ne_nil blank) _).symm

theorem heading_eq_orElse (value : Option Json) (placeholder : Text) :
    heading value placeholder = orElse placeholder (ownTitle value) := by
  cases value with
  | none => rfl
  | some value =>
      rw [heading, ownTitle]
      cases value.isVoid with
      | true => rfl
      | false =>
          by_cases none : value.display.words = []
          · rw [foldLine, none]
            rfl
          · have shown := (trimmed_foldLine none).1
            rw [List.isEmpty_eq_false_iff.mpr none]
            exact (orElse_of_ne_nil shown _).symm

/-! ## (2) Own texts of an object -/

/-- The texts of a task. -/
def ownTask (task : Json) : Text × Text :=
  (ownText (task.get? "description"), ownText (task.get? "weightage"))

namespace Sheet

/-- The texts that the fields of an object have of their own; the number of the tasks listed stands
for a number that counts as not given. -/
def own (fields : List (Text × Json)) : Sheet :=
  let tasks := listed (Json.fieldIn? "tasks" fields)
  let count := Json.fieldIn? "numberOfTasks" fields
  { title := ownTitle (Json.fieldIn? "title" fields)
    deadline := ownText (Json.fieldIn? "deadline" fields)
    taskCount :=
      if (count.getD .null).isVoid && !tasks.isEmpty then Text.ofNat tasks.length else ownText count
    totalMarks := ownText (Json.fieldIn? "totalMarksWeightage" fields)
    criteria := ownText (Json.fieldIn? "evaluationCriteria" fields)
    tasks := tasks.map ownTask }

/-- The same texts with placeholders for the empty ones, and placeholder tasks for none. -/
def filled (placeholders : Placeholders) (sheet : Sheet) : Sheet where
  title := orElse placeholders.title sheet.title
  deadline := orElse placeholders.deadline sheet.deadline
  taskCount := orElse placeholders.taskCount sheet.taskCount
  totalMarks := orElse placeholders.totalMarks sheet.totalMarks
  criteria := orElse placeholders.criteria sheet.criteria
  tasks := (if sheet.tasks.isEmpty then placeholders.tasks.map fun task => ownTask task.toJson
      else sheet.tasks).map fun task =>
    (orElse placeholders.description task.1, orElse placeholders.weightage task.2)

/-- What is said of the tasks, numbered from 1. -/
def taskLines (sheet : Sheet) : List Text :=
  sheet.tasks.mapIdx fun place task => taskLine (place + 1) task.1 task.2

/-- The pieces of a document that shows the texts. -/
def pieces (sheet : Sheet) : List Text :=
  [("# " : Text) ++ sheet.title,
    "## Deadline", sheet.deadline,
    "## Number of Tasks", sheet.taskCount,
    "## Tasks"] ++ sheet.taskLines ++
  [("## Total Weightage Marks" : Text), sheet.totalMarks,
    "## Evaluation Criteria", sheet.criteria]

/-- The texts of one sheet that are not empty stand in another one at the same places. -/
structure Keeps (sheet shown : Sheet) : Prop where
  /-- The title. -/
  title : sheet.title ≠ [] → shown.title = sheet.title
  /-- The deadline. -/
  deadline : sheet.deadline ≠ [] → shown.deadline = sheet.deadline
  /-- The number of tasks. -/
  taskCount : sheet.taskCount ≠ [] → shown.taskCount = sheet.taskCount
  /-- The marks of the whole assignment. -/
  totalMarks : sheet.totalMarks ≠ [] → shown.totalMarks = sheet.totalMarks
  /-- The criteria. -/
  criteria : sheet.criteria ≠ [] → shown.criteria = sheet.criteria
  /-- The tasks, if there are any. -/
  tasks : sheet.tasks ≠ [] →
    List.Forall₂ (fun task other => (task.1 ≠ [] → other.1 = task.1) ∧
      (task.2 ≠ [] → other.2 = task.2)) sheet.tasks shown.tasks

/-- Two sheets give a document the same pieces in the same places. -/
structure Agrees (sheet other : Sheet) : Prop where
  /-- The title. -/
  title : sheet.title = other.title
  /-- The deadline. -/
  deadline : sheet.deadline = other.deadline
  /-- The number of tasks. -/
  taskCount : sheet.taskCount = other.taskCount
  /-- What is said of the tasks. -/
  tasks : sheet.taskLines = other.taskLines
  /-- The marks of the whole assignment. -/
  totalMarks : sheet.totalMarks = other.totalMarks
  /-- The criteria. -/
  criteria : sheet.criteria = other.criteria

/-- No text is replaced by a placeholder. -/
theorem keeps_filled (placeholders : Placeholders) (sheet : Sheet) :
    sheet.Keeps (sheet.filled placeholders) where
  title shown := orElse_of_ne_nil shown _
  deadline shown := orElse_of_ne_nil shown _
  taskCount shown := orElse_of_ne_nil shown _
  totalMarks shown := orElse_of_ne_nil shown _
  criteria shown := orElse_of_ne_nil shown _
  tasks shown := by
    rw [filled, List.isEmpty_eq_false_iff.mpr shown, if_neg Bool.false_ne_true,
      List.forall₂_map_right_iff]
    exact List.forall₂_same.mpr fun task _ =>
      ⟨fun shown => orElse_of_ne_nil shown _, fun shown => orElse_of_ne_nil shown _⟩

/-- The pieces tell where each of them belongs, whatever the number of tasks is. -/
theorem agrees_of_pieces_eq {sheet other : Sheet} (same : sheet.pieces = other.pieces) :
    sheet.Agrees other := by
  -- only the pieces of the tasks vary in number, between six others and four
  obtain ⟨start, behind⟩ := List.append_inj' same rfl
  obtain ⟨before, tasks⟩ := List.append_inj start rfl
  simp only [List.cons.injEq, List.append_cancel_left_eq, true_and, and_true] at before behind
  exact ⟨before.1, before.2.1, before.2.2, tasks, behind.1, behind.2⟩

end Sheet

/-! ## (3) Pieces -/

/-- What is said of tasks are the lines of their texts. -/
theorem taskBlocksFrom_eq_taskLines (placeholders : Placeholders) (tasks : List Json) :
    taskBlocksFrom placeholders 1 tasks =
      ((tasks.map ownTask).map fun task => (orElse placeholders.description task.1,
        orElse placeholders.weightage task.2)).mapIdx
          fun place task => taskLine (place + 1) task.1 task.2 := by
  have own (place : Nat) (task : Json) : taskBlock placeholders (1 + place) task =
      taskLine (place + 1) (orElse placeholders.description (ownTask task).1)
        (orElse placeholders.weightage (ownTask task).2) := by
    rw [taskBlock, body_eq_orElse, body_eq_orElse, Nat.add_comm]
    rfl
  rw [taskBlocksFrom_eq_mapIdx]
  refine List.ext_getElem (by simp) fun place _ _ => ?_
  rw [List.getElem_mapIdx, List.getElem_mapIdx, List.getElem_map, List.getElem_map, own]

theorem taskBlocks_eq_taskLines (placeholders : Placeholders) (fields : List (Text × Json)) :
    taskBlocks placeholders (Json.fieldIn? "tasks" fields) =
      ((Sheet.own fields).filled placeholders).taskLines := by
  rw [taskBlocks, Sheet.taskLines, Sheet.filled, Sheet.own]
  dsimp only
  cases listed (Json.fieldIn? "tasks" fields) with
  | nil =>
      have own : (placeholders.tasks.map Task.toJson).map ownTask =
          placeholders.tasks.map fun task => ownTask task.toJson := List.map_map
      exact (taskBlocksFrom_eq_taskLines placeholders _).trans (by rw [own]; rfl)
  | cons task tasks => exact taskBlocksFrom_eq_taskLines placeholders (task :: tasks)

/-- The number that is shown has the text of the number field, or is that of the tasks listed. -/
theorem ownText_shownCount (count tasks : Option Json) :
    ownText (shownCount count tasks) =
      if (count.getD .null).isVoid && !(listed tasks).isEmpty then
        Text.ofNat (listed tasks).length
      else ownText count := by
  rw [shownCount]
  cases (count.getD .null).isVoid with
  | false => rfl
  | true =>
      cases items : listed tasks with
      | nil => rfl
      | cons item more =>
          have given : (Json.int ((item :: more).length : Nat)).isVoid = false := by
            rw [Json.isVoid, beq_eq_false_iff_ne, List.length_cons]
            omega
          have display : (Json.int ((item :: more).length : Nat)).display =
            Text.ofNat (item :: more).length := rfl
          rw [if_pos rfl, ownText, given, display, normalise_ofNat]
          rfl

/-- The blocks of a document are the pieces of the texts of its object. -/
theorem blocks_eq_pieces (placeholders : Placeholders) (fields : List (Text × Json)) :
    blocks placeholders fields = ((Sheet.own fields).filled placeholders).pieces := by
  rw [blocks, Sheet.pieces, ← taskBlocks_eq_taskLines]
  simp only [body_eq_orElse, heading_eq_orElse, ownText_shownCount]
  rfl

/-! ## (4) Documents -/

/-- The texts of a value, which has no fields unless it is an object. -/
def Sheet.ofJson (value : Json) : Sheet := own (value.toFields?.getD [])

variable {placeholders : Placeholders}

/-- **The texts of a document are found again.** The document of any value, taken apart at its blank
lines, has the texts of the value in their places, with a piece for each task in order, and with
placeholders for the empty texts alone; and so has the document of an assignment. Documents are
equal only if all these pieces are, whatever the placeholders are. The values are meant to be
`Json.Bounded`, like all that are read. -/
theorem recoverable (separable : Separable placeholders) :
    (∀ value : Json, (renderJson placeholders value).paragraphs =
        ((Sheet.ofJson value).filled placeholders).pieces ∧
      (Sheet.ofJson value).Keeps ((Sheet.ofJson value).filled placeholders)) ∧
      (∀ record : Record, (render placeholders record).paragraphs =
        ((Sheet.ofJson record.toJson).filled placeholders).pieces) ∧
      ∀ others, Separable others → ∀ value other : Json,
        renderJson placeholders value = renderJson others other →
          ((Sheet.ofJson value).filled placeholders).Agrees
            ((Sheet.ofJson other).filled others) := by
  have pieces {placeholders : Placeholders} (separable : Separable placeholders) (value : Json) :
      (renderJson placeholders value).paragraphs =
        ((Sheet.ofJson value).filled placeholders).pieces :=
    (paragraphs_renderFields separable _).trans (blocks_eq_pieces _ _)
  refine ⟨fun value => ⟨pieces separable value, Sheet.keeps_filled _ _⟩,
    fun record => pieces separable record.toJson, fun others hothers value other same => ?_⟩
  refine Sheet.agrees_of_pieces_eq ?_
  rw [← pieces separable value, ← pieces hothers other, same]

/-- Blank lines, values that count as not given, tasks that are none and a placeholder on two lines
are no exception. -/
theorem recoverable_mixed :
    let placeholders : Placeholders := { criteria := "Auto-generated\n# criteria" }
    let value : Json := .object [("title", .text " A\n\n B "),
      ("deadline", .text "x\n \n\ny\n # z"), ("numberOfTasks", .text ""),
      ("totalMarksWeightage", .bool false),
      ("tasks", .list [.object [("description", .text "d"), ("weightage", .int 5)], .null])]
    Separable placeholders ∧
      (renderJson placeholders value).paragraphs =
        ["# A B", "## Deadline", "x y\n\\# z", "## Number of Tasks", "2", "## Tasks",
          "Task 1: d (Weightage: 5 marks)",
          "Task 2: No description provided (Weightage: Not specified marks)",
          "## Total Weightage Marks", "100", "## Evaluation Criteria",
          "Auto-generated\n# criteria"] := by
  intro placeholders value
  have separable : Separable placeholders := ⟨by decide, by decide⟩
  exact ⟨separable, ((recoverable separable).1 value).1.trans (by decide +kernel)⟩

/-- Marks of zero are not shown, although their text is not empty. -/
theorem not_recoverable_zero :
    ¬ ∀ (placeholders : Placeholders) (fields : List (Text × Json)) (value : Json),
      Separable placeholders → Json.fieldIn? "totalMarksWeightage" fields = some value →
      normalise value.display ≠ [] →
      normalise value.display ∈ (renderFields placeholders fields).paragraphs := by
  intro found
  have zero := found .usual [("totalMarksWeightage", .int 0)] (.int 0) ⟨by decide, by decide⟩ rfl
    (by decide)
  revert zero
  decide +kernel

end Coursework.Outline
