import Coursework.Proofs.Outline.Escape
import Coursework.Proofs.Text.Lines

/-! # Normalised texts

Folding leaves no blank line between two line feeds, so every line of a normalised text is trimmed
and shows something.

* **`Outline.Unbroken`** holds of a text in which no line feed is followed by a blank line.
* **`Outline.unbroken_foldBlankLines`** and **`Outline.isBlank_of_mem_lines`** use it.
* **`Outline.normalLines`** are the lines of a normalised text. -/

namespace Coursework.Outline

variable {text : Text} {sign : Nat}

/-! ## (1) Runs of blank lines -/

/-- No line feed is followed by a blank line. -/
def Unbroken : Text → Prop
  | [] => True
  | sign :: text => (sign = Sign.newline → lineEnds text = false) ∧ Unbroken text

theorem lineEnds_cons (sign : Nat) (text : Text) :
    lineEnds (sign :: text) = (Sign.isBlank sign && (sign == Sign.newline || lineEnds text)) := by
  rw [lineEnds, List.takeWhile_cons]
  cases Sign.isBlank sign <;> rfl

/-- Folding brings no line end nearer. -/
theorem lineEnds_of_fold {folding : Bool}
    (h : lineEnds (foldBlankLinesFrom folding text) = true) : lineEnds text = true := by
  induction text generalizing folding with
  | nil => cases h
  | cons sign text ih =>
      rw [foldBlankLinesFrom] at h
      split at h
      · split at h
        · assumption
        · rw [lineEnds_cons] at h ⊢
          rw [Bool.and_eq_true, Bool.or_eq_true] at h ⊢
          exact ⟨h.1, h.2.imp_right ih⟩
      · split at h
        · rename_i hends
          rw [Bool.and_eq_true, decide_eq_true_eq] at hends
          rw [hends.1, lineEnds_cons]
          rfl
        · rw [lineEnds_cons] at h ⊢
          rw [Bool.and_eq_true, Bool.or_eq_true] at h ⊢
          exact ⟨h.1, h.2.imp_right ih⟩

/-- No blank line is left. -/
theorem unbroken_foldFrom (folding : Bool) (text : Text) :
    Unbroken (foldBlankLinesFrom folding text) := by
  induction text generalizing folding with
  | nil => trivial
  | cons sign text ih =>
      -- a line feed that is kept stands before no blank line, and so it does in what is left
      have kept (ends : sign = Sign.newline → lineEnds text = false) :
          Unbroken (sign :: foldBlankLinesFrom false text) :=
        ⟨fun h => Bool.eq_false_iff.mpr fun hends =>
          absurd (lineEnds_of_fold hends) (Bool.eq_false_iff.mp (ends h)), ih false⟩
      rw [foldBlankLinesFrom]
      split
      · split
        · exact ih true
        · rename_i hends
          refine kept fun h => ?_
          rw [h, lineEnds_cons] at hends
          exact absurd rfl hends
      · split
        · exact ⟨fun h => absurd h (by decide), ih true⟩
        · rename_i hends
          refine kept fun h => ?_
          rw [h] at hends
          simpa using hends

theorem unbroken_foldBlankLines (text : Text) : Unbroken (foldBlankLines text) :=
  unbroken_foldFrom false text

theorem lineEnds_append {first second : Text} (h : lineEnds first = true) :
    lineEnds (first ++ second) = true := by
  induction first with
  | nil => cases h
  | cons sign first ih =>
      rw [lineEnds_cons, Bool.and_eq_true, Bool.or_eq_true] at h
      rw [List.cons_append, lineEnds_cons, Bool.and_eq_true, Bool.or_eq_true]
      exact ⟨h.1, h.2.imp_right ih⟩

/-- A part of an unbroken text is unbroken. -/
theorem Unbroken.of_isInfix {part : Text} (unbroken : Unbroken text) (h : part <:+: text) :
    Unbroken part := by
  obtain ⟨before, behind, rfl⟩ := h
  rw [List.append_assoc] at unbroken
  have rest : Unbroken (part ++ behind) := by
    induction before with
    | nil => exact unbroken
    | cons sign before ih => exact ih unbroken.2
  clear unbroken
  induction part with
  | nil => trivial
  | cons sign part ih =>
      refine ⟨fun h => Bool.eq_false_iff.mpr fun hends => ?_, ih rest.2⟩
      exact absurd (lineEnds_append hends) (Bool.eq_false_iff.mp (rest.1 h))

/-! ## (2) Lines -/

/-- Every line of an unbroken text that does not end with white space shows something, the first
one if no line ends before its first sign. -/
theorem isBlank_lines_of_unbroken (unbroken : Unbroken text) (shown : text ≠ [])
    (last : ∀ sign, text.getLast? = some sign → Sign.isBlank sign = false) :
    ∃ first others, text.lines = first :: others ∧
      (lineEnds text = false → first.isBlank = false) ∧
      ∀ line ∈ others, Text.isBlank line = false := by
  induction text with
  | nil => exact absurd rfl shown
  | cons sign text ih =>
      -- the last sign of a text is a line of its own, and to be seen
      by_cases hnone : text = []
      · subst hnone
        have hsign := last sign rfl
        have hother : sign ≠ Sign.newline := by
          rintro rfl
          cases hsign
        refine ⟨[sign], [], Text.splitAt_cons_of_ne hother rfl, fun _ => ?_, fun line h => ?_⟩
        · rw [Text.isBlank, List.all_cons, hsign]
          rfl
        · exact absurd h List.not_mem_nil
      · have hlast : ∀ sign, text.getLast? = some sign → Sign.isBlank sign = false := by
          intro a h
          exact last a (by rw [List.getLast?_cons, h, Option.getD_some])
        obtain ⟨first, others, hlines, hfirst, hothers⟩ := ih unbroken.2 hnone hlast
        -- a line feed is followed by a line that is not blank, and ends an empty one
        by_cases same : sign = Sign.newline
        · refine ⟨[], first :: others, ?_, fun h => ?_, ?_⟩
          · rw [same, Text.lines, Text.splitAt_cons_self]
            exact congrArg _ hlines
          · rw [same, lineEnds_cons] at h
            cases h
          · exact List.forall_mem_cons.mpr ⟨hfirst (unbroken.1 same), hothers⟩
        -- any other sign belongs to the first line, which is blank at most up to the next sign
        · refine ⟨sign :: first, others, Text.splitAt_cons_of_ne same hlines, fun h => ?_, hothers⟩
          rw [lineEnds_cons, beq_eq_false_iff_ne.mpr same, Bool.false_or] at h
          rw [Text.isBlank, List.all_cons]
          rcases Bool.and_eq_false_iff.mp h with h | h
          · rw [h]
            rfl
          · exact Bool.and_eq_false_iff.mpr (.inr (hfirst h))

/-- Every line of a trimmed unbroken text shows something. -/
theorem isBlank_of_mem_lines (unbroken : Unbroken text) (shown : text ≠ [])
    (trimmed : text.Trimmed) {line : Text} (member : line ∈ text.lines) :
    line.isBlank = false := by
  obtain ⟨first, others, hlines, hfirst, hothers⟩ :=
    isBlank_lines_of_unbroken unbroken shown trimmed.last
  have hends : lineEnds text = false := by
    cases text with
    | nil => rfl
    | cons sign text => rw [lineEnds_cons, trimmed.first sign rfl]; rfl
  rw [hlines] at member
  rcases List.mem_cons.mp member with rfl | member
  · exact hfirst hends
  · exact hothers line member

/-! ## (3) Signs -/

theorem mem_dropReturns (h : sign ∈ dropReturns text) : sign ∈ text := by
  induction text using dropReturns.induct with
  | case1 text ih =>
      rw [dropReturns] at h
      simp only [List.mem_cons] at h ⊢
      tauto
  | case2 other text _ ih =>
      rw [dropReturns] at h
      · simp only [List.mem_cons] at h ⊢
        tauto
      · assumption
  | case3 => exact h

theorem mem_foldFrom {folding : Bool} (h : sign ∈ foldBlankLinesFrom folding text) :
    sign ∈ text ∨ sign = Sign.space := by
  induction text generalizing folding with
  | nil => exact .inl h
  | cons other text ih =>
      rw [foldBlankLinesFrom] at h
      rw [List.mem_cons]
      split at h <;> split at h
      · exact (ih h).imp_left .inr
      · rcases List.mem_cons.mp h with h | h
        · exact .inl (.inl h)
        · exact (ih h).imp_left .inr
      · rcases List.mem_cons.mp h with h | h
        · exact .inr h
        · exact (ih h).imp_left .inr
      · rcases List.mem_cons.mp h with h | h
        · exact .inl (.inl h)
        · exact (ih h).imp_left .inr

/-- Carriage returns that stand before no line feed are kept. -/
theorem dropReturns_of_not_infix
    (absent : ¬ [Sign.carriageReturn, Sign.newline] <:+: text) : dropReturns text = text := by
  induction text using dropReturns.induct with
  | case1 text ih => exact absurd ⟨[], text, rfl⟩ absent
  | case2 sign text other ih =>
      rw [dropReturns, ih fun within => absent (List.infix_cons within)]
      exact other
  | case3 => rfl

/-- A text without carriage returns is left alone. -/
theorem dropReturns_of_not_mem (absent : Sign.carriageReturn ∉ text) : dropReturns text = text :=
  dropReturns_of_not_infix fun within => absent (within.subset List.mem_cons_self)

/-- Folding drops no sign but white space. -/
theorem mem_foldFrom_of_solid {folding : Bool} (solid : Sign.isBlank sign = false)
    (h : sign ∈ text) : sign ∈ foldBlankLinesFrom folding text := by
  induction text generalizing folding with
  | nil => cases h
  | cons other text ih =>
      rcases List.mem_cons.mp h with rfl | h
      -- the sign ends no line, and no line ends before it
      · have hends : lineEnds (sign :: text) = false := by
          rw [lineEnds_cons, solid]
          rfl
        have hother : (sign = Sign.newline && lineEnds text) = false := by
          rw [Bool.and_eq_false_iff, decide_eq_false_iff_not]
          left
          rintro rfl
          cases solid
        rw [foldBlankLinesFrom, hends, hother]
        cases folding <;> exact List.mem_cons_self
      · rw [foldBlankLinesFrom]
        split
        · split
          · exact ih h
          · exact List.mem_cons_of_mem _ (ih h)
        · split
          · exact List.mem_cons_of_mem _ (ih h)
          · exact List.mem_cons_of_mem _ (ih h)

/-- So nothing becomes blank. -/
theorem isBlank_foldBlankLines (shown : text.isBlank = false) :
    Text.isBlank (foldBlankLines text) = false := by
  rw [Text.isBlank, List.all_eq_false] at shown ⊢
  obtain ⟨sign, hsign, solid⟩ := shown
  exact ⟨sign, mem_foldFrom_of_solid (Bool.eq_false_iff.mpr solid) hsign, solid⟩

/-! ## (4) Normalised texts -/

/-- A text without the white space around it and without blank lines in it. -/
def folded (text : Text) : Text := (foldBlankLines (dropReturns text)).strip

/-- The lines of a normalised text. -/
def normalLines (text : Text) : List Text := (folded text).lines.map escapeLine

theorem normalise_eq_joinWith (text : Text) :
    normalise text = Text.joinWith [Sign.newline] (normalLines text) :=
  rfl

theorem unbroken_folded (text : Text) : Unbroken (folded text) :=
  (unbroken_foldBlankLines _).of_isInfix (Text.strip_isInfix _)

theorem trimmed_folded (text : Text) : (folded text).Trimmed := Text.trimmed_strip _

theorem normalLines_ne_nil (text : Text) : normalLines text ≠ [] := by
  rw [normalLines, Ne, List.map_eq_nil_iff]
  exact Text.lines_ne_nil _

/-- The lines of a text that is not blank are trimmed, and show something. -/
theorem normalLines_shown (shown : folded text ≠ []) {line : Text}
    (member : line ∈ normalLines text) : line ≠ [] ∧ line.Trimmed := by
  obtain ⟨source, hsource, rfl⟩ := List.mem_map.mp member
  have hblank := isBlank_of_mem_lines (unbroken_folded text) shown (trimmed_folded text) hsource
  refine ⟨fun h => ?_, trimmed_escapeLine source⟩
  rw [escapeLine_eq_nil_iff, hblank] at h
  cases h

/-- Their signs are those of the text, spaces and backslashes. -/
theorem mem_normalLines {line : Text} (member : line ∈ normalLines text) (h : sign ∈ line) :
    sign ∈ text ∨ sign = Sign.space ∨ sign = Sign.backslash := by
  obtain ⟨source, hsource, rfl⟩ := List.mem_map.mp member
  rcases mem_escapeLine h with h | h
  · exact .inr (.inr h)
  · have hfolded := Text.mem_of_mem_strip (Text.mem_of_mem_splitAt hsource h)
    rcases mem_foldFrom hfolded with h | h
    · exact .inl (mem_dropReturns h)
    · exact .inr (.inl h)

end Coursework.Outline
