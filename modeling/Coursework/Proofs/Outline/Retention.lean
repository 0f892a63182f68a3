import Coursework.Proofs.Outline.Encodable

/-! # Signs that a document keeps

Normalising a text drops white space only, so every other sign of a text that a document shows is
a sign of the document. In particular no surrogate is lost.

* **`Outline.mem_normalise`** and **`Outline.mem_foldLine`** are about texts.
* **`Outline.hasSurrogate_renderFields_iff`**: a document has an encoded form exactly if all
  values that it shows are plain. -/

namespace Coursework

variable {sign : Nat} {text : Text} (solid : Sign.isBlank sign = false)

namespace Outline

/-! ## (1) Texts -/

section Normalising

include solid

theorem mem_dropReturns_of_solid (h : sign ∈ text) : sign ∈ dropReturns text := by
  induction text using dropReturns.induct with
  | case1 text ih =>
      rw [dropReturns]
      rcases List.mem_cons.mp h with rfl | h
      · cases solid
      · rcases List.mem_cons.mp h with rfl | h
        · exact List.mem_cons_self
        · exact List.mem_cons_of_mem _ (ih h)
  | case2 other text unlike ih =>
      rw [dropReturns]
      · rcases List.mem_cons.mp h with rfl | h
        · exact List.mem_cons_self
        · exact List.mem_cons_of_mem _ (ih h)
      · exact unlike
  | case3 => exact h

theorem mem_escapeLine_of_solid (h : sign ∈ text) : sign ∈ escapeLine text := by
  have kept := Text.mem_strip_of_solid solid h
  have escaped := escaped_escapeLine text
  generalize escapeLine text = line at escaped
  cases escaped with
  | ordered ordered =>
      rw [ordered.parts] at kept
      simp only [List.mem_append, List.mem_cons] at kept ⊢
      tauto
  | opening _ _ => exact List.mem_cons_of_mem _ kept
  | plain _ _ => exact kept

theorem mem_normalise (h : sign ∈ text) : sign ∈ normalise text := by
  have kept : sign ∈ folded text := Text.mem_strip_of_solid solid
    (mem_foldFrom_of_solid solid (mem_dropReturns_of_solid solid h))
  obtain ⟨line, member, h⟩ := Text.exists_line_of_solid solid kept
  rw [normalise_eq_joinWith]
  exact Text.mem_joinWith_of_mem (List.mem_map_of_mem member) (mem_escapeLine_of_solid solid h)

theorem mem_foldLine (h : sign ∈ text) : sign ∈ foldLine text := by
  obtain ⟨word, member, h⟩ := Text.exists_word_of_solid solid h
  exact mem_escapeLine_of_solid solid (Text.mem_joinWith_of_mem member h)

end Normalising

/-! ## (2) Values -/

section Shown

variable {content : Text} {fields : List (Text × Json)} {placeholders : Placeholders}

include solid

theorem mem_body {placeholder : Text} (h : sign ∈ content) :
    sign ∈ body (some (.text content)) placeholder := by
  have some : content.isEmpty = false := List.isEmpty_eq_false_iff.mpr (List.ne_nil_of_mem h)
  have shown : Text.isBlank (foldBlankLines (dropReturns content)) = false := by
    rw [Text.isBlank, List.all_eq_false]
    exact ⟨sign, mem_foldFrom_of_solid solid (mem_dropReturns_of_solid solid h),
      Bool.eq_false_iff.mp solid⟩
  rw [body, Json.isVoid, Json.display, some, shown]
  exact mem_normalise solid h

theorem mem_heading {placeholder : Text} (h : sign ∈ content) :
    sign ∈ heading (some (.text content)) placeholder := by
  have some : content.isEmpty = false := List.isEmpty_eq_false_iff.mpr (List.ne_nil_of_mem h)
  obtain ⟨word, member, -⟩ := Text.exists_word_of_solid solid h
  have shown : content.words.isEmpty = false :=
    List.isEmpty_eq_false_iff.mpr (List.ne_nil_of_mem member)
  rw [heading, Json.isVoid, Json.display, some, shown]
  exact mem_foldLine solid h

/-- The texts of a task are in its block. -/
theorem mem_taskBlock {task : Json} {number : Nat}
    (shown : some (.text content) ∈ [task.get? "description", task.get? "weightage"])
    (h : sign ∈ content) : sign ∈ taskBlock placeholders number task := by
  rw [taskBlock, taskLine]
  simp only [List.mem_cons, List.not_mem_nil, or_false] at shown
  simp only [List.mem_append]
  rcases shown with shown | shown
  · exact .inl (.inl (.inl (.inr (shown ▸ mem_body solid h))))
  · exact .inl (.inr (shown ▸ mem_body solid h))

theorem exists_taskBlock {tasks : List Json} {task : Json} {first : Nat} (member : task ∈ tasks)
    (shown : some (.text content) ∈ [task.get? "description", task.get? "weightage"])
    (h : sign ∈ content) : ∃ block ∈ taskBlocksFrom placeholders first tasks, sign ∈ block := by
  induction tasks generalizing first with
  | nil => cases member
  | cons other tasks ih =>
      rcases List.mem_cons.mp member with rfl | member
      · exact ⟨_, List.mem_cons_self, mem_taskBlock solid shown h⟩
      · obtain ⟨block, found, h⟩ := @ih (first + 1) member
        exact ⟨block, List.mem_cons_of_mem _ found, h⟩

omit solid in
/-- The number of tasks that is shown is the field's own if that is a text with a sign. -/
theorem shownCount_text (some : content ≠ []) (tasks : Option Json) :
    shownCount (.some (.text content)) tasks = .some (.text content) := by
  rw [shownCount, Option.getD_some, Json.isVoid, List.isEmpty_eq_false_iff.mpr some]
  rfl

/-- A text that a document shows is in one of its blocks. -/
theorem exists_block_of_shown (shown : some (.text content) ∈ shownValues fields)
    (h : sign ∈ content) : ∃ block ∈ blocks placeholders fields, sign ∈ block := by
  rw [shownValues, List.mem_append, List.mem_flatMap] at shown
  rcases shown with own | ⟨task, member, own⟩
  · have kept (placeholder : Text) := @mem_body sign solid content placeholder h
    simp only [List.mem_cons, List.not_mem_nil, or_false] at own
    rcases own with own | own | own | own | own
    · refine ⟨("# " : Text) ++ heading (some (.text content)) placeholders.title, ?_, ?_⟩
      · simp [blocks, own]
      · exact List.mem_append_right _ (mem_heading solid h)
    · exact ⟨_, by simp [blocks, own], kept placeholders.deadline⟩
    · exact ⟨_, by simp [blocks, ← own, shownCount_text (List.ne_nil_of_mem h)],
        kept placeholders.taskCount⟩
    · exact ⟨_, by simp [blocks, own], kept placeholders.totalMarks⟩
    · exact ⟨_, by simp [blocks, own], kept placeholders.criteria⟩
  · obtain ⟨block, found, h⟩ := @exists_taskBlock sign solid content placeholders _ _ 1 member own h
    refine ⟨block, ?_, h⟩
    have tasks : block ∈ taskBlocks placeholders (Json.fieldIn? "tasks" fields) := by
      rw [taskBlocks]
      split
      · rename_i none
        rw [none] at member
        cases member
      · exact found
    simp [blocks, tasks]

/-- A text that a document shows loses white space only. -/
theorem mem_renderFields (shown : some (.text content) ∈ shownValues fields) (h : sign ∈ content) :
    sign ∈ renderFields placeholders fields := by
  obtain ⟨block, member, h⟩ := @exists_block_of_shown sign solid content fields placeholders shown h
  exact Text.mem_strip_of_solid solid (Text.mem_joinWith_of_mem member h)

end Shown

/-! ## (3) Surrogates -/

/-- A document has an encoded form exactly if all values that it shows are plain. -/
theorem hasSurrogate_renderFields_iff {fields : List (Text × Json)} :
    (renderFields .usual fields).hasSurrogate = false ↔
      ∀ value ∈ shownValues fields, isPlain value = true := by
  constructor
  · intro plain value shown
    rw [← Bool.not_eq_false]
    intro other
    match value, other with
    | some (.text content), other =>
        rw [isPlain, Bool.not_eq_false', Text.hasSurrogate, List.any_eq_true] at other
        obtain ⟨sign, member, surrogate⟩ := other
        have solid := Text.isBlank_of_isSurrogate surrogate
        have kept := @mem_renderFields sign solid content fields .usual shown member
        rw [Text.hasSurrogate_eq_false_iff.mp plain sign kept] at surrogate
        cases surrogate
  · exact hasSurrogate_renderFields

end Outline

end Coursework
