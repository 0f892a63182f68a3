import Coursework.Proofs.Outline.Sections
import Coursework.Proofs.Outline.Settled
import Coursework.Proofs.Text.Numeral

/-! # Texts that stand in a paragraph

A normalised text stands in a paragraph of its own, and so does what is said of a task, unless the
text has a carriage return or a line that begins with an underscore or a bracket.

* **`Outline.Stands`** holds of a source whose lines are all settled, **`Outline.Guarded`** of a
  text without these signs in these places.
* **`Outline.stands_normalise`** and **`Outline.stands_taskLine`** are the main statements.
* **`Outline.stays_textPart`**: such a source is a part of a document that stays one. -/

namespace Coursework.Outline

open Markdown

/-! ## (1) Lines after the first -/

/-- The lines of a text after the first are settled. -/
def Rests (text : Text) : Prop := ∀ line ∈ text.lines.tail, Settled line

theorem rests_of_not_mem {text : Text} (absent : Sign.newline ∉ text) : Rests text := by
  rw [Rests, Text.lines, Text.splitAt_of_not_mem absent]
  exact fun line h => absurd h List.not_mem_nil

/-- What stands before the first line end does not matter. -/
theorem rests_append_of_not_mem {first second : Text} (absent : Sign.newline ∉ first)
    (rests : Rests second) : Rests (first ++ second) := by
  obtain ⟨piece, pieces, h⟩ := Text.exists_splitAt_eq_cons Sign.newline second
  rw [Rests, Text.lines, h] at rests
  rwa [Rests, Text.lines, Text.splitAt_append_of_not_mem absent h]

/-- The last line of a text may go on behind a space. -/
theorem Rests.append {first second : Text} (hfirst : Rests first)
    (hsecond : Rests (Sign.space :: second)) : Rests (first ++ Sign.space :: second) := by
  by_cases member : Sign.newline ∈ first
  · obtain ⟨before, last, rfl, absent⟩ := Text.exists_last_of_mem member
    obtain ⟨piece, pieces, h⟩ := Text.exists_splitAt_eq_cons Sign.newline second
    have hspace : Text.lines (Sign.space :: second) = (Sign.space :: piece) :: pieces :=
      Text.splitAt_cons_of_ne (by decide) h
    have hlast : Text.lines (last ++ Sign.space :: second) =
        (last ++ Sign.space :: piece) :: pieces :=
      Text.splitAt_append_of_not_mem absent hspace
    -- the last line of the first text and the first line behind it are one line
    obtain ⟨top, others, hbefore⟩ := Text.exists_splitAt_eq_cons Sign.newline before
    have hlines : Text.lines before = top :: others := hbefore
    rw [Rests, Text.lines_append, hlines, Text.lines, Text.splitAt_of_not_mem absent] at hfirst
    rw [Rests, hspace] at hsecond
    rw [Rests, List.append_assoc, List.cons_append, Text.lines_append, hlines, hlast]
    intro line h
    rcases List.mem_append.mp h with h | h
    · exact hfirst line (List.mem_append_left _ h)
    · rcases List.mem_cons.mp h with rfl | h
      · exact (hfirst last (List.mem_append_right _ List.mem_cons_self)).append piece
      · exact hsecond line h
  · exact rests_append_of_not_mem member hsecond

/-! ## (2) Standing texts -/

/-- A source without carriage returns stands in a paragraph if none of its lines opens a block. -/
structure Stands (source : Text) : Prop where
  /-- Lines end with line feeds alone. -/
  returns : Sign.carriageReturn ∉ source
  /-- Every line is settled. -/
  settled : ∀ line ∈ source.lines, Settled line

theorem Stands.rests {source : Text} (stands : Stands source) : Rests source :=
  fun line h => stands.settled line (List.mem_of_mem_tail h)

/-- A source that stands in a paragraph stays one, whatever follows. -/
theorem stays_textPart {source : Text} (stands : Stands source) (behind : List Line) :
    (textPart source).Stays behind := by
  obtain ⟨first, more, h⟩ := Text.exists_splitAt_eq_cons Sign.newline source
  have settled := stands.settled
  rw [Text.lines, h, List.forall_mem_cons] at settled
  rw [← Text.unixLines_of_not_mem stands.returns] at h
  rw [textPart_eq h]
  exact ⟨opensBlock_of_settled settled.1 _ _, fun line hline =>
    opensBlock_of_settled (settled.2 line hline) _ _⟩

/-- A text has no carriage return, and no line of it begins with an underscore or a bracket. -/
structure Guarded (text : Text) : Prop where
  /-- Lines end with line feeds alone. -/
  returns : Sign.carriageReturn ∉ text
  /-- No line begins with one of the two signs. -/
  first : ∀ line ∈ (folded text).lines, ∀ sign, line.strip.head? = some sign →
    sign ≠ Sign.underscore ∧ sign ≠ Sign.leftBracket

/-- Without these signs anywhere a text is guarded. -/
theorem guarded_of_forall {text : Text} (absent : ∀ sign ∈ text, sign ≠ Sign.carriageReturn ∧
    sign ≠ Sign.underscore ∧ sign ≠ Sign.leftBracket) : Guarded text where
  returns h := (absent _ h).1 rfl
  first line hline sign h := by
    have hfolded := Text.mem_of_mem_splitAt hline (Text.mem_of_mem_strip (List.mem_of_mem_head? h))
    rcases mem_foldFrom (Text.mem_of_mem_strip hfolded) with h | rfl
    · exact (absent sign (mem_dropReturns h)).2
    · decide

/-- **A normalised text stands in a paragraph** if it is guarded and shows something. -/
theorem stands_normalise {text : Text} (guarded : Guarded text) (shown : folded text ≠ []) :
    Stands (normalise text) := by
  have absent : ∀ line ∈ normalLines text, Sign.newline ∉ line := by
    intro line member h
    obtain ⟨source, hsource, rfl⟩ := List.mem_map.mp member
    rcases mem_escapeLine h with h | h
    · cases h
    · exact Text.not_mem_of_mem_splitAt hsource h
  refine ⟨fun h => ?_, fun line member => ?_⟩
  · rcases Text.mem_joinWith h with h | ⟨line, hline, h⟩
    · cases List.mem_singleton.mp h
    · rcases mem_normalLines hline h with h | h | h
      · exact guarded.returns h
      · cases h
      · cases h
  · rw [normalise_eq_joinWith, Text.lines, Text.splitAt_joinWith (normalLines_ne_nil text) absent]
      at member
    obtain ⟨source, hsource, rfl⟩ := List.mem_map.mp member
    have solid := isBlank_of_mem_lines (unbroken_folded text) shown (trimmed_folded text) hsource
    exact settled_escapeLine solid (guarded.first source hsource)

/-- So does the text of a field, if the placeholder does. -/
theorem stands_body {value : Option Json} {placeholder : Text} (hplaceholder : Stands placeholder)
    (guarded : ∀ shown, value = some shown → Guarded shown.display) :
    Stands (body value placeholder) := by
  rcases body_cases value placeholder with h | ⟨shown, hshown, some, h⟩
  · rwa [h]
  · rw [h]
    exact stands_normalise (guarded shown hshown) some

/-! ## (3) Tasks -/

/-- What is said of a task before its text. -/
def taskOpening (number : Nat) : Text := ("Task " : Text) ++ Text.ofNat number ++ ": "

theorem taskLine_eq (number : Nat) (description weightage : Text) :
    taskLine number description weightage = taskOpening number ++
      (description ++ (" (Weightage: " ++ (weightage ++ " marks)"))) := by
  simp only [taskLine, taskOpening, List.append_assoc]

theorem mem_taskOpening {sign number : Nat} (h : sign ∈ taskOpening number) :
    Sign.isDigit sign = true ∨ sign ∈ Text.ofString "Task : " := by
  simp only [taskOpening, List.mem_append] at h
  rcases h with (h | h) | h
  · exact .inr (List.mem_append_left (Text.ofString ": ") h)
  · exact .inl (Text.isDigit_of_mem_ofNat h)
  · exact .inr (List.mem_append_right (Text.ofString "Task ") h)

theorem newline_not_mem_taskOpening (number : Nat) : Sign.newline ∉ taskOpening number := by
  intro h
  rcases mem_taskOpening h with h | h
  · cases h
  · exact absurd h (by decide)

/-- What is said of a task stands in a paragraph if its texts do. -/
theorem stands_taskLine (number : Nat) {description weightage : Text}
    (hdescription : Stands description) (hweightage : Stands weightage) :
    Stands (taskLine number description weightage) := by
  refine ⟨fun h => ?_, fun line member => ?_⟩
  -- none of the pieces has a carriage return
  · simp only [taskLine_eq, List.mem_append] at h
    rcases h with h | h | h | h | h
    · rcases mem_taskOpening h with h | h
      · cases h
      · exact absurd h (by decide)
    · exact hdescription.returns h
    · exact absurd h (by decide)
    · exact hweightage.returns h
    · exact absurd h (by decide)
  · have marks : Rests " marks)" := rests_of_not_mem (by decide)
    have hmiddle : Rests (" (Weightage: " ++ (weightage ++ " marks)")) :=
      rests_append_of_not_mem (by decide) (hweightage.rests.append marks)
    have rests : Rests (taskLine number description weightage) := by
      rw [taskLine_eq]
      exact rests_append_of_not_mem (newline_not_mem_taskOpening number)
        (hdescription.rests.append hmiddle)
    -- only the first line is left, which begins with a letter
    obtain ⟨between, hline⟩ := exists_taskLine_eq number description weightage
    obtain ⟨first, others, hrest⟩ :=
      Text.exists_splitAt_eq_cons Sign.newline (between ++ [Sign.rightParenthesis])
    have hlines : (taskLine number description weightage).lines = (84 :: first) :: others := by
      rw [hline, List.append_assoc]
      exact Text.splitAt_cons_of_ne (by decide) hrest
    rw [Rests, hlines] at rests
    rw [hlines, List.mem_cons] at member
    rcases member with rfl | member
    · exact settled_cons (by decide) (by decide) (by decide) first
    · exact rests line member

end Coursework.Outline
