import Coursework.Proofs.Outline.Fidelity

/-! # Literal texts, headings and code

What markdown does not change: a trimmed line without marks, such a line behind number signs, and
the lines between two fences.

* **`Literal`** holds of a line without marks; `Literal.visible` and `Literal.settled` say that it
  shows itself and opens no block.
* **`readBlock_heading`** and **`readFence_code`** read headings and code. -/

namespace Coursework.Markdown

open Outline

/-! ## (1) Literal texts -/

/-- The signs that a block of markdown may begin with, apart from those that have a meaning within
a line. -/
def blockMarks : Text :=
  [Sign.hash, Sign.greaterThan, Sign.plus, Sign.hyphen, Sign.equals, Sign.tilde]

/-- Whether a text begins with digits and a point or a parenthesis. -/
def opensNumber (text : Text) : Bool :=
  let digits := text.takeWhile Sign.isDecimal
  !digits.isEmpty && ((text.drop digits.length).take 1).any fun sign =>
    sign == Sign.fullStop || sign == Sign.rightParenthesis

/-- A trimmed line that has no marks of markdown. -/
structure Literal (text : Text) : Prop where
  /-- There is something to be seen. -/
  shown : text ≠ []
  /-- No white space stands at the ends. -/
  trimmed : text.Trimmed
  /-- There are no backslashes, no marks within the line and no line ends. -/
  inert : ∀ sign ∈ text, isInert sign = true ∧ sign ≠ Sign.newline
  /-- The line begins with no sign of a block. -/
  opens : ∀ sign ∈ text.head?, sign ∉ blockMarks
  /-- It begins with no number. -/
  unnumbered : opensNumber text = false

instance (text : Text) : Decidable (Literal text) :=
  decidable_of_iff (text ≠ [] ∧ text.Trimmed ∧
      (∀ sign ∈ text, isInert sign = true ∧ sign ≠ Sign.newline) ∧
      (∀ sign ∈ text.head?, sign ∉ blockMarks) ∧ opensNumber text = false)
    ⟨fun h => ⟨h.1, h.2.1, h.2.2.1, h.2.2.2.1, h.2.2.2.2⟩,
      fun h => ⟨h.shown, h.trimmed, h.inert, h.opens, h.unnumbered⟩⟩

namespace Literal

variable {text : Text}

theorem newline_not_mem (literal : Literal text) : Sign.newline ∉ text :=
  fun h => (literal.inert _ h).2 rfl

theorem return_not_mem (literal : Literal text) : Sign.carriageReturn ∉ text :=
  fun h => (isInert_iff.mp (literal.inert _ h).1).2.2 rfl

/-- A literal text shows itself. -/
theorem visible (literal : Literal text) (labels : List Text) :
    Inline.visible labels text = text := by
  have quiet := quiet_of_inert (fun sign h => (literal.inert sign h).1) literal.newline_not_mem
  have absent : Sign.backslash ∉ text :=
    fun h => (isInert_iff.mp (literal.inert _ h).1).1 rfl
  rw [Inline.visible_eq_unescape labels quiet literal.trimmed, unescape_of_not_mem absent]

theorem isMarkup_eq_false (literal : Literal text) :
    ∀ sign ∈ text, Inline.isMarkup sign = false :=
  fun sign h => (isInert_iff.mp (literal.inert sign h).1).2.1

/-- A literal text opens no block. -/
theorem settled (literal : Literal text) : Settled text where
  begins := by
    obtain ⟨sign, rest, rfl⟩ := List.exists_cons_of_ne_nil literal.shown
    refine ⟨sign, rest, rfl, literal.trimmed.first sign rfl, Bool.eq_false_iff.mpr fun h => ?_⟩
    have marks := literal.opens sign rfl
    have markup := (isInert_iff.mp (literal.inert sign List.mem_cons_self).1).2.1
    simp only [beginsMarkup, Outline.opensBlock, Bool.or_eq_true, beq_iff_eq] at h
    rcases h with (((((((((rfl | rfl) | rfl) | rfl) | rfl) | rfl) | rfl) | rfl) | rfl) | rfl) | rfl
    all_goals first | exact marks (by decide) | cases markup
  unordered digits mark rest ordered := by
    have hdigits : text.takeWhile Sign.isDecimal = digits := by
      rw [ordered.parts, List.takeWhile_append_of_pos ordered.decimal, List.takeWhile_cons_of_neg
        (Bool.eq_false_iff.mp (isDecimal_mark ordered.closes)), List.append_nil]
    have hmark : (text.drop digits.length).take 1 = [mark] := by
      rw [ordered.parts, List.drop_left]
      rfl
    have unnumbered := literal.unnumbered
    rw [opensNumber, hdigits, hmark] at unnumbered
    simp only [List.isEmpty_eq_false_iff.mpr ordered.begins, List.any_cons, List.any_nil,
      Bool.not_false, Bool.true_and, Bool.or_false, Bool.or_eq_false_iff,
      beq_eq_false_iff_ne] at unnumbered
    exact ordered.closes.elim unnumbered.1 unnumbered.2

end Literal

/-! ## (2) Headings -/

variable (nesting : Nesting)

/-- A literal text behind number signs is a heading. -/
theorem heading?_of_literal {depth : Nat} (least : 1 ≤ depth) (most : depth ≤ 6) {content : Text}
    (literal : Literal content) (ends : content.getLast? ≠ some Sign.hash) :
    Line.heading? 3 (List.replicate depth Sign.hash ++ Sign.space :: content) =
      some (depth, content) := by
  obtain ⟨-, -, reads⟩ := (begins_headingPart least most content).reads _ _ _ rfl
  have hstrip : content.stripEnd = content := Text.trimEnd_eq_self literal.trimmed.last
  have hhash : Text.trimEnd (· == Sign.hash) content = content :=
    Text.trimEnd_eq_self fun sign h => beq_eq_false_iff_ne.mpr fun same => ends (same ▸ h)
  have hclosing : Line.withoutClosing content = content := by
    rw [Line.withoutClosing, hstrip, hhash]
    exact if_pos rfl
  rw [reads, trim_space literal.trimmed, hclosing]

/-- A heading is read wherever it stands. -/
theorem readBlock_heading {rest : Line} {depth : Nat} {content : Text}
    (heading : Line.heading? 3 (Sign.hash :: rest) = some (depth, content)) (lines : List Line)
    (draft : Draft) :
    readBlock nesting {} (Sign.hash :: rest) lines draft =
      (draft.push (.heading depth content), lines) := by
  have hfence : Line.fence? 3 (Sign.hash :: rest) = none := rfl
  have hindented : Line.isIndented (Sign.hash :: rest) = false := rfl
  simp only [readBlock, hfence, hindented, heading, Bool.false_eq_true, if_false]

/-! ## (3) Code -/

/-- The line of a fence: three backticks. -/
def fenceLine : Line := [Sign.backtick, Sign.backtick, Sign.backtick]

/-- What it opens. -/
def bareFence : Line.Fence := ⟨0, Sign.backtick, 3, []⟩

/-- Code behind a fence is read wherever it stands. -/
theorem readBlock_fence (lines : List Line) (draft : Draft) :
    readBlock nesting {} fenceLine lines draft = readFence bareFence lines draft := rfl

/-- The spaces at the start of a line are white space. -/
theorem stripStart_unindented (line : Line) :
    Text.stripStart line.unindented = Text.stripStart line := by
  have hblank : ∀ sign ∈ line.takeWhile (· == Sign.space), Sign.isBlank sign = true := by
    intro sign h
    have same := List.mem_takeWhile_imp h
    rw [eq_of_beq same]
    rfl
  have hline := congrArg Text.stripStart
    (List.takeWhile_append_dropWhile (p := (· == Sign.space)) (l := line))
  rwa [Text.stripStart, List.dropWhile_append_of_pos hblank] at hline

/-- A line that begins with no fence behind white space closes none. -/
theorem isClosedBy_eq_false {line : Line} (plain : line.stripStart.startsWith fenceLine = false) :
    bareFence.isClosedBy line = false := by
  refine Bool.eq_false_iff.mpr fun closed => ?_
  rw [Line.Fence.isClosedBy, Line.afterIndentation?] at closed
  split at closed
  · cases closed
  · rename_i rest h
    split at h
    · obtain rfl := Option.some.inj h
      rw [Bool.and_eq_true, decide_eq_true_eq] at closed
      have begins : line.unindented.startsWith fenceLine = true :=
        Text.startsWith_replicate closed.1
      rw [← stripStart_unindented] at plain
      -- what begins with a fence begins with no white space
      revert begins plain
      cases line.unindented with
      | nil => exact fun _ begins => by cases begins
      | cons sign rest =>
          intro plain begins
          have hsign : sign = Sign.backtick := by
            rw [fenceLine, Text.startsWith, Bool.and_eq_true] at begins
            exact eq_of_beq begins.1
          rw [hsign, Text.stripStart, List.dropWhile_cons_of_neg (by decide), ← hsign,
            begins] at plain
          cases plain
    · cases h

/-- Lines that close no fence are code up to the line that does. -/
theorem fencedLines_append {code : List Line}
    (plain : ∀ line ∈ code, bareFence.isClosedBy line = false) (behind : List Line) :
    fencedLines bareFence (code ++ fenceLine :: behind) = (code, behind) := by
  induction code with
  | nil => rfl
  | cons line code ih =>
      obtain ⟨hline, hcode⟩ := List.forall_mem_cons.mp plain
      have flush : line.dropSpaces bareFence.indentation = line := by
        cases line <;> rfl
      rw [List.cons_append, fencedLines, hline, ih hcode, flush]
      rfl

/-- Code between fences is read as it is. -/
theorem readFence_code {content : Text} (ends : content.getLast? ≠ some Sign.newline)
    (plain : ∀ line ∈ content.lines, line.stripStart.startsWith fenceLine = false)
    (behind : List Line) (draft : Draft) :
    readFence bareFence (content.lines ++ fenceLine :: behind) draft =
      (draft.push (.code content), behind) := by
  have whole : unlines content.lines = content := Text.joinWith_splitAt Sign.newline content
  have kept : Text.trimEnd (· == Sign.newline) content = content :=
    Text.trimEnd_eq_self fun sign h => beq_eq_false_iff_ne.mpr fun same => ends (same ▸ h)
  rw [readFence, fencedLines_append fun line h => isClosedBy_eq_false (plain line h)]
  simp only [whole, kept]

end Coursework.Markdown
