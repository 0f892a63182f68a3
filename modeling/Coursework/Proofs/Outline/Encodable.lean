import Coursework.Proofs.Json.Literal
import Coursework.Proofs.Outline.Sections

/-! # Documents without surrogates

A document shows values as they are or escaped, so it has an encoded form unless a text in a field
has a surrogate. Texts deeper in a value do not matter, because they are shown as literals.

* **`Outline.shownValues`** are the values that a document shows.
* **`Outline.hasSurrogate_blocks`** and **`Outline.hasSurrogate_renderFields`** hold if all of them
  are plain. -/

namespace Coursework

namespace Outline

/-! ## (1) Values -/

/-- Whether a value, if there is one, is no text with a surrogate. -/
def isPlain : Option Json → Bool
  | some (.text content) => !content.hasSurrogate
  | _ => true

/-- The values that a document shows: those of its fields and those of the tasks listed. -/
def shownValues (fields : List (Text × Json)) : List (Option Json) :=
  let field (name : Text) := Json.fieldIn? name fields
  [field "title", field "deadline", field "numberOfTasks", field "totalMarksWeightage",
    field "evaluationCriteria"] ++
  (listed (field "tasks")).flatMap fun task => [task.get? "description", task.get? "weightage"]

/-- A plain value is shown without surrogates. -/
theorem hasSurrogate_display_of_isPlain {value : Json} (plain : isPlain (some value) = true) :
    value.display.hasSurrogate = false := by
  refine Json.hasSurrogate_display ?_
  rintro content rfl
  rwa [isPlain, Bool.not_eq_true'] at plain

/-! ## (2) Texts -/

variable {value : Option Json} {placeholder : Text}

theorem hasSurrogate_normalise {text : Text} (plain : text.hasSurrogate = false) :
    (normalise text).hasSurrogate = false := by
  rw [normalise_eq_joinWith]
  refine Text.hasSurrogate_joinWith (by decide) fun line hline => ?_
  refine Text.hasSurrogate_eq_false_iff.mpr fun sign h => ?_
  rcases mem_normalLines hline h with h | rfl | rfl
  · exact Text.hasSurrogate_eq_false_iff.mp plain sign h
  · decide
  · decide

theorem hasSurrogate_body (plain : isPlain value = true)
    (hplaceholder : placeholder.hasSurrogate = false) :
    (body value placeholder).hasSurrogate = false := by
  rcases body_cases value placeholder with h | ⟨shown, rfl, -, h⟩
  · rwa [h]
  · rw [h]
    exact hasSurrogate_normalise (hasSurrogate_display_of_isPlain plain)

theorem hasSurrogate_foldLine {text : Text} (plain : text.hasSurrogate = false) :
    (foldLine text).hasSurrogate = false := by
  refine Text.hasSurrogate_eq_false_iff.mpr fun sign h => ?_
  rw [foldLine_eq] at h
  rcases mem_escapeLine h with rfl | h
  · decide
  · rcases mem_title h with rfl | ⟨h, -⟩
    · decide
    · exact Text.hasSurrogate_eq_false_iff.mp plain sign h

theorem hasSurrogate_heading (plain : isPlain value = true)
    (hplaceholder : placeholder.hasSurrogate = false) :
    (heading value placeholder).hasSurrogate = false := by
  rcases heading_cases value placeholder with h | ⟨shown, rfl, -, h⟩
  · rwa [h]
  · rw [h]
    exact hasSurrogate_foldLine (hasSurrogate_display_of_isPlain plain)

theorem hasSurrogate_taskLine (number : Nat) {description weightage : Text}
    (hdescription : description.hasSurrogate = false)
    (hweightage : weightage.hasSurrogate = false) :
    (taskLine number description weightage).hasSurrogate = false := by
  simp only [taskLine, Text.hasSurrogate_append, Text.hasSurrogate_ofNat, hdescription, hweightage]
  decide

/-! ## (3) Documents -/

theorem hasSurrogate_taskBlocksFrom {tasks : List Json}
    (plain : ∀ task ∈ tasks, isPlain (task.get? "description") = true ∧
      isPlain (task.get? "weightage") = true) {first : Nat} :
    ∀ block ∈ taskBlocksFrom .usual first tasks, block.hasSurrogate = false := by
  induction tasks generalizing first with
  | nil => exact fun block h => absurd h List.not_mem_nil
  | cons task tasks ih =>
      obtain ⟨own, others⟩ := List.forall_mem_cons.mp plain
      refine List.forall_mem_cons.mpr ⟨?_, ih others⟩
      exact hasSurrogate_taskLine first (hasSurrogate_body own.1 (by decide))
        (hasSurrogate_body own.2 (by decide))

theorem hasSurrogate_taskBlocks {tasks : Option Json}
    (plain : ∀ task ∈ listed tasks, isPlain (task.get? "description") = true ∧
      isPlain (task.get? "weightage") = true) :
    ∀ block ∈ taskBlocks .usual tasks, block.hasSurrogate = false := by
  have usual : ∀ task ∈ Placeholders.usual.tasks.map Task.toJson,
      isPlain (task.get? "description") = true ∧ isPlain (task.get? "weightage") = true := by
    decide
  rw [taskBlocks]
  split
  · exact hasSurrogate_taskBlocksFrom usual
  · exact hasSurrogate_taskBlocksFrom plain

variable {fields : List (Text × Json)}

/-- The number of tasks that is shown is plain if the field is. -/
theorem isPlain_shownCount {count tasks : Option Json} (plain : isPlain count = true) :
    isPlain (shownCount count tasks) = true := by
  rw [shownCount]
  split
  · split
    · exact plain
    · rfl
  · exact plain

/-- The blocks of a document with plain values have no surrogates. -/
theorem hasSurrogate_blocks (plain : ∀ value ∈ shownValues fields, isPlain value = true)
    {block : Text} (member : block ∈ blocks .usual fields) : block.hasSurrogate = false := by
  rw [shownValues, List.forall_mem_append] at plain
  obtain ⟨own, listed⟩ := plain
  simp only [List.forall_mem_cons] at own
  obtain ⟨title, deadline, count, marks, criteria, -⟩ := own
  have tasks := hasSurrogate_taskBlocks fun task h =>
    ⟨listed (task.get? "description") (List.mem_flatMap.mpr ⟨task, h, List.mem_cons_self⟩),
      listed (task.get? "weightage") (List.mem_flatMap.mpr
        ⟨task, h, List.mem_cons_of_mem _ List.mem_cons_self⟩)⟩
  have usual : ∀ text ∈ [Placeholders.usual.title, Placeholders.usual.deadline,
      Placeholders.usual.taskCount, Placeholders.usual.totalMarks, Placeholders.usual.criteria,
      "## Deadline", "## Number of Tasks", "## Tasks", "## Total Weightage Marks",
      "## Evaluation Criteria"], Text.hasSurrogate text = false := by
    decide
  simp only [List.forall_mem_cons] at usual
  obtain ⟨hutitle, hudeadline, hucount, humarks, hucriteria, hdeadline, hcount, htasks, hmarks,
    hcriteria, -⟩ := usual
  simp only [blocks, List.mem_append, List.mem_cons, List.not_mem_nil, or_false] at member
  rcases member with ((rfl | rfl | rfl | rfl | rfl | rfl) | h) | (rfl | rfl | rfl | rfl)
  · rw [Text.hasSurrogate_append, hasSurrogate_heading title hutitle]
    decide
  · exact hdeadline
  · exact hasSurrogate_body deadline hudeadline
  · exact hcount
  · exact hasSurrogate_body (isPlain_shownCount count) hucount
  · exact htasks
  · exact tasks block h
  · exact hmarks
  · exact hasSurrogate_body marks humarks
  · exact hcriteria
  · exact hasSurrogate_body criteria hucriteria

/-- A document with plain values has no surrogates. -/
theorem hasSurrogate_renderFields (plain : ∀ value ∈ shownValues fields, isPlain value = true) :
    (renderFields .usual fields).hasSurrogate = false := by
  rw [renderFields_eq_joinWith _ presentable_usual.trimmed]
  exact Text.hasSurrogate_joinWith (by decide) fun block h => hasSurrogate_blocks plain h

end Outline

end Coursework
