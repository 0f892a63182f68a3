import Coursework.Proofs.Outline.Sections
import Coursework.Proofs.Text.Numeral
import Coursework.Proofs.Text.Paragraphs

/-! # Documents taken apart

No text is shown with an empty line in it: normalising takes them away, and a title is one line. So
the places where a document has two line feeds in a row are those between its blocks, if the
placeholders have no empty line either.

* **`Outline.Separable`** holds of such placeholders.
* **`Outline.tight_of_mem_blocks`**: a block has no empty line.
* **`Outline.paragraphs_renderFields`** is the main statement. -/

namespace Coursework.Outline

/-! ## (1) Texts -/

/-- A text on one or more lines that are not empty is not taken apart. -/
theorem tight_normalise {text : Text} (shown : folded text ≠ []) : Text.Tight (normalise text) := by
  rw [normalise_eq_joinWith]
  refine Text.tight_joinWith fun line member => ⟨(normalLines_shown shown member).1, ?_⟩
  intro newline
  obtain ⟨source, found, rfl⟩ := List.mem_map.mp member
  rcases mem_escapeLine newline with h | h
  · cases h
  · exact Text.not_mem_of_mem_splitAt found h

theorem tight_body (value : Option Json) {placeholder : Text} (tight : placeholder.Tight) :
    Text.Tight (body value placeholder) := by
  rcases body_cases value placeholder with h | ⟨value, -, shown, h⟩
  · rwa [h]
  · rw [h]
    exact tight_normalise shown

theorem tight_heading (value : Option Json) {placeholder : Text} (tight : placeholder.Tight) :
    Text.Tight (heading value placeholder) := by
  rcases heading_cases value placeholder with h | ⟨value, -, some, h⟩
  · rwa [h]
  · rw [h]
    exact Text.tight_of_not_mem fun member => ((trimmed_foldLine some).2.2 _ member).1 rfl

/-- What is said of a task is not taken apart if its two texts are not. -/
theorem tight_taskLine (number : Nat) {description weightage : Text}
    (hdescription : description.Tight) (hweightage : weightage.Tight) :
    Text.Tight (taskLine number description weightage) := by
  have fixed : ∀ text ∈ [("Task " : Text), ": ", " (Weightage: ", " marks)"], Text.Tight text := by
    simp only [List.forall_mem_cons]
    refine ⟨?_, ?_, ?_, ?_, fun _ h => absurd h List.not_mem_nil⟩ <;>
      exact Text.tight_of_not_mem (by decide)
  simp only [List.forall_mem_cons] at fixed
  obtain ⟨opening, colon, marks, closing, -⟩ := fixed
  have numeral : Text.Tight (Text.ofNat number) := Text.tight_of_not_mem fun member => by
    cases Text.isDigit_of_mem_ofNat member
  exact (((((opening.append numeral).append colon).append hdescription).append marks).append
    hweightage).append closing

/-! ## (2) Blocks -/

/-- The texts that stand for what is missing. -/
def placeholderTexts (placeholders : Placeholders) : List Text :=
  [placeholders.title, placeholders.deadline, placeholders.taskCount, placeholders.description,
    placeholders.weightage, placeholders.totalMarks, placeholders.criteria]

/-- Placeholders that stay in one piece: trimmed texts without an empty line. -/
structure Separable (placeholders : Placeholders) : Prop where
  /-- The texts show something and are trimmed. -/
  trimmed : ∀ text ∈ placeholderTexts placeholders, text ≠ [] ∧ text.Trimmed
  /-- No line is empty. -/
  lines : ∀ text ∈ placeholderTexts placeholders, [] ∉ text.lines

theorem separable_usual : Separable .usual where
  trimmed := by decide
  lines := by decide

theorem tight_of_lines {text : Text} (filled : [] ∉ text.lines) : text.Tight := by
  rw [← Text.joinWith_splitAt Sign.newline text]
  refine Text.tight_joinWith fun line member => ⟨?_, Text.not_mem_of_mem_splitAt member⟩
  rintro rfl
  exact filled member

/-- Tasks are numbered by their places. -/
theorem taskBlocksFrom_eq_mapIdx (placeholders : Placeholders) (first : Nat) (tasks : List Json) :
    taskBlocksFrom placeholders first tasks =
      tasks.mapIdx fun place task => taskBlock placeholders (first + place) task := by
  induction tasks generalizing first with
  | nil => rfl
  | cons task tasks ih =>
      rw [taskBlocksFrom, ih, List.mapIdx_cons]
      simp only [Nat.add_assoc, Nat.add_comm 1, Nat.add_zero]

variable {placeholders : Placeholders} (separable : Separable placeholders)

include separable

theorem Separable.tight : ∀ text ∈ placeholderTexts placeholders, text.Tight :=
  fun text member => tight_of_lines (separable.lines text member)

theorem tight_of_mem_taskBlocksFrom {tasks : List Json} {first : Nat} {block : Text}
    (member : block ∈ taskBlocksFrom placeholders first tasks) : block.Tight := by
  have tight := separable.tight
  simp only [placeholderTexts, List.forall_mem_cons] at tight
  obtain ⟨-, -, -, description, weightage, -⟩ := tight
  rw [taskBlocksFrom_eq_mapIdx] at member
  obtain ⟨place, inside, rfl⟩ := List.mem_mapIdx.mp member
  exact tight_taskLine (first + place) (tight_body _ description) (tight_body _ weightage)

/-- The blocks of a document stay in one piece. -/
theorem tight_of_mem_blocks {fields : List (Text × Json)} {block : Text}
    (member : block ∈ blocks placeholders fields) : block.Tight := by
  have fixed {text : Text} (absent : Sign.newline ∉ text) : text.Tight :=
    Text.tight_of_not_mem absent
  have tight := separable.tight
  simp only [placeholderTexts, List.forall_mem_cons] at tight
  obtain ⟨title, deadline, count, -, -, marks, criteria, -⟩ := tight
  simp only [blocks, List.mem_append, List.mem_cons, List.not_mem_nil, or_false] at member
  rcases member with ((rfl | rfl | rfl | rfl | rfl | rfl) | h) | (rfl | rfl | rfl | rfl)
  · exact (fixed (by decide)).append (tight_heading _ title)
  · exact fixed (by decide)
  · exact tight_body _ deadline
  · exact fixed (by decide)
  · exact tight_body _ count
  · exact fixed (by decide)
  · rw [taskBlocks] at h
    split at h <;> exact tight_of_mem_taskBlocksFrom separable h
  · exact fixed (by decide)
  · exact tight_body _ marks
  · exact fixed (by decide)
  · exact tight_body _ criteria

/-- A document is taken apart into its blocks. -/
theorem paragraphs_renderFields (fields : List (Text × Json)) :
    (renderFields placeholders fields).paragraphs = blocks placeholders fields := by
  have trimmed := separable.trimmed
  simp only [placeholderTexts, List.forall_mem_cons] at trimmed
  obtain ⟨title, deadline, count, -, -, marks, criteria, -⟩ := trimmed
  have shown : ∀ text ∈ [placeholders.title, placeholders.deadline, placeholders.taskCount,
      placeholders.totalMarks, placeholders.criteria], text ≠ [] ∧ text.Trimmed := by
    simp only [List.forall_mem_cons]
    exact ⟨title, deadline, count, marks, criteria, fun _ h => absurd h List.not_mem_nil⟩
  rw [renderFields_eq_joinWith fields shown]
  exact Text.paragraphs_joinWith (List.cons_ne_nil _ _) fun _ => tight_of_mem_blocks separable

end Coursework.Outline
