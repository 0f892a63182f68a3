import Coursework.Proofs.Outline.Folding

/-! # Runs of blank lines

A run of blank lines is the longest stretch of white space from a line feed to another one. The
runs of a text are found from its start, and each becomes a space.

* **`Text.EndsLine`** holds of a text of which a line ends within the white space at its start.
* **`Outline.Folds`** relates a text to one with a space for each run.
* **`Outline.folds_iff`**: there is exactly one such text, the folded one. -/

namespace Coursework

/-! ## (1) Line ends -/

namespace Text

/-- A line ends within the white space at the start of the text. -/
def EndsLine (text : Text) : Prop :=
  ∃ blanks rest : Text, text = blanks ++ Sign.newline :: rest ∧ blanks.isBlank = true

/-- Behind the last of the line ends at the start of a text there is none. -/
theorem EndsLine.exists_last {text : Text} (ends : text.EndsLine) :
    ∃ blanks rest : Text, text = blanks ++ Sign.newline :: rest ∧ blanks.isBlank = true ∧
      ¬ rest.EndsLine := by
  obtain ⟨blanks, rest, rfl, blank⟩ := ends
  -- as long as another line ends, there is less text behind it
  induction short : rest.length using Nat.strongRecOn generalizing blanks rest with
  | ind length ih =>
      by_cases more : rest.EndsLine
      · obtain ⟨others, behind, rfl, blankOthers⟩ := more
        have shorter : behind.length < length := by
          rw [← short, List.length_append, List.length_cons]
          omega
        have longer : isBlank (blanks ++ Sign.newline :: others) = true := by
          rw [isBlank, List.all_append, List.all_cons, ← isBlank, ← isBlank, blank, blankOthers]
          rfl
        have found := ih _ shorter (blanks ++ Sign.newline :: others) behind longer rfl
        rwa [List.append_assoc] at found
      · exact ⟨blanks, rest, rfl, blank, more⟩

theorem endsLine_cons {text : Text} {sign : Nat} : EndsLine (sign :: text) ↔
    Sign.isBlank sign = true ∧ (sign = Sign.newline ∨ text.EndsLine) := by
  constructor
  · rintro ⟨blanks, rest, same, blank⟩
    cases blanks with
    | nil =>
        obtain ⟨rfl, -⟩ := List.cons.inj same
        exact ⟨rfl, .inl rfl⟩
    | cons first blanks =>
        obtain ⟨rfl, rfl⟩ := List.cons.inj same
        rw [isBlank, List.all_cons, Bool.and_eq_true] at blank
        exact ⟨blank.1, .inr ⟨blanks, rest, rfl, blank.2⟩⟩
  · rintro ⟨own, rfl | ⟨blanks, rest, rfl, blank⟩⟩
    · exact ⟨[], text, rfl, rfl⟩
    · refine ⟨sign :: blanks, rest, rfl, ?_⟩
      rw [isBlank, List.all_cons, own]
      exact blank

end Text

namespace Outline

variable {text blanks rest : Text}

theorem lineEnds_iff : lineEnds text = true ↔ text.EndsLine := by
  induction text with
  | nil =>
      constructor
      · intro ends
        cases ends
      · rintro ⟨blanks, rest, same, -⟩
        exact absurd same.symm (List.append_ne_nil_of_right_ne_nil _ (List.cons_ne_nil _ _))
  | cons sign text ih =>
      rw [lineEnds_cons, Bool.and_eq_true, Bool.or_eq_true, beq_iff_eq, ih, Text.endsLine_cons]

/-! ## (2) Runs -/

/-- The second text is the first with a space for each run of blank lines. -/
inductive Folds : Text → Text → Prop
  /-- Nothing is left. -/
  | nil : Folds [] []
  /-- A run begins here and ends with the last line end before something to see. -/
  | run {blanks rest folded : Text} (blank : blanks.isBlank = true) (longest : ¬ rest.EndsLine)
    (behind : Folds rest folded) :
    Folds (Sign.newline :: (blanks ++ Sign.newline :: rest)) (Sign.space :: folded)
  /-- No run begins here. -/
  | sign {sign : Nat} {rest folded : Text} (single : sign = Sign.newline → ¬ rest.EndsLine)
    (behind : Folds rest folded) : Folds (sign :: rest) (sign :: folded)

/-- A run that was begun lasts up to its last line end. -/
theorem foldFrom_run (blank : blanks.isBlank = true) (longest : ¬ rest.EndsLine) :
    foldBlankLinesFrom true (blanks ++ Sign.newline :: rest) = foldBlankLines rest := by
  induction blanks with
  | nil =>
      have ends : lineEnds (Sign.newline :: rest) = true := lineEnds_iff.mpr ⟨[], rest, rfl, rfl⟩
      rw [List.nil_append, foldBlankLinesFrom, if_pos rfl, if_pos ends]
      -- there is no further line end, so the run is over
      cases rest with
      | nil => rfl
      | cons sign rest =>
          rw [← lineEnds_iff, Bool.not_eq_true] at longest
          have other : (sign = Sign.newline && lineEnds rest) = false := by
            rw [Bool.and_eq_false_iff, decide_eq_false_iff_not]
            left
            rintro rfl
            rw [lineEnds_cons] at longest
            cases longest
          rw [foldBlankLines, foldBlankLinesFrom, foldBlankLinesFrom, if_pos rfl, longest, other]
          rfl
  | cons first blanks ih =>
      have ends : lineEnds (first :: (blanks ++ Sign.newline :: rest)) = true :=
        lineEnds_iff.mpr ⟨first :: blanks, rest, rfl, blank⟩
      rw [Text.isBlank, List.all_cons, Bool.and_eq_true] at blank
      rw [List.cons_append, foldBlankLinesFrom, if_pos rfl, if_pos ends]
      exact ih blank.2

theorem foldBlankLines_run (blank : blanks.isBlank = true) (longest : ¬ rest.EndsLine) :
    foldBlankLines (Sign.newline :: (blanks ++ Sign.newline :: rest)) =
      Sign.space :: foldBlankLines rest := by
  have ends : lineEnds (blanks ++ Sign.newline :: rest) = true :=
    lineEnds_iff.mpr ⟨blanks, rest, rfl, blank⟩
  rw [← foldFrom_run blank longest, foldBlankLines, foldBlankLinesFrom, ends]
  rfl

theorem foldBlankLines_cons {sign : Nat} (single : sign = Sign.newline → ¬ rest.EndsLine) :
    foldBlankLines (sign :: rest) = sign :: foldBlankLines rest := by
  have other : (sign = Sign.newline && lineEnds rest) = false := by
    rw [Bool.and_eq_false_iff, decide_eq_false_iff_not]
    by_cases same : sign = Sign.newline
    · exact .inr (Bool.eq_false_iff.mpr (mt lineEnds_iff.mp (single same)))
    · exact .inl same
  rw [foldBlankLines, foldBlankLinesFrom, other]
  rfl

/-- Folding puts a space for each run. -/
theorem folds_foldBlankLines (text : Text) : Folds text (foldBlankLines text) := by
  induction short : text.length using Nat.strongRecOn generalizing text with
  | ind length ih =>
      cases text with
      | nil => exact .nil
      | cons sign text =>
          by_cases begins : sign = Sign.newline ∧ Text.EndsLine text
          · obtain ⟨rfl, ends⟩ := begins
            obtain ⟨blanks, rest, rfl, blank, longest⟩ := ends.exists_last
            rw [foldBlankLines_run blank longest]
            refine .run blank longest (ih rest.length ?_ rest rfl)
            rw [← short, List.length_cons, List.length_append, List.length_cons]
            omega
          · have single : sign = Sign.newline → ¬ Text.EndsLine text :=
              fun same ends => begins ⟨same, ends⟩
            rw [foldBlankLines_cons single]
            exact .sign single (ih text.length (by rw [← short]; exact Nat.lt_succ_self _) text rfl)

/-- **Folding blank lines.** There is one text with a space for each run of blank lines. -/
theorem folds_iff {folded : Text} : Folds text folded ↔ foldBlankLines text = folded := by
  constructor
  · intro folds
    induction folds with
    | nil => rfl
    | run blank longest _ ih => rw [foldBlankLines_run blank longest, ih]
    | sign single _ ih => rw [foldBlankLines_cons single, ih]
  · rintro rfl
    exact folds_foldBlankLines text

/-- A text without blank lines is left alone. -/
theorem foldBlankLines_of_unbroken (unbroken : Unbroken text) : foldBlankLines text = text := by
  induction text with
  | nil => rfl
  | cons sign text ih =>
      have single : sign = Sign.newline → ¬ Text.EndsLine text := fun same ends => by
        rw [← lineEnds_iff, unbroken.1 same] at ends
        cases ends
      rw [foldBlankLines_cons single, ih unbroken.2]

end Outline

end Coursework
