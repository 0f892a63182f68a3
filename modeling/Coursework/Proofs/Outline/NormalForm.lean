import Coursework.Proofs.Assignment.Transparency
import Coursework.Proofs.Outline.BlankLines
import Coursework.Proofs.Outline.Tasks
import Coursework.Proofs.Outline.Title

/-! # The normal form of a text

A normalised text has one line for each line of the text on which there is something to see, without
the white space around it and with at most one backslash more. No line of it opens a block, so a
second normalisation finds nothing to change. The same holds of a title, which is one line.

* **`Outline.NormalLine`** holds of a line that opens no block, **`Text.Spaced`** of one with single
  spaces.
* **`Outline.Escapes`** relates a line to one with at most one backslash more.
* **`Outline.normalise_of_normalLine`** and **`Outline.foldLine_of_normalLine`**: normal texts are
  left alone.
* **`Outline.normal_form`** is the main statement. -/

namespace Coursework

/-! ## (1) Single spaces -/

/-- The only white space of a text are spaces, no two of them in a row. -/
structure Text.Spaced (text : Text) : Prop where
  /-- There is no other white space. -/
  single : ∀ sign ∈ text, Sign.isBlank sign = true → sign = Sign.space
  /-- A space stands between two other signs. -/
  apart : ¬ [Sign.space, Sign.space] <:+: text

/-- Another sign put into a text brings no sign next to itself. -/
theorem Text.isInfix_of_insert {sign other : Nat} (different : other ≠ sign) {before after : Text}
    (twice : [sign, sign] <:+: before ++ other :: after) : [sign, sign] <:+: before ++ after := by
  induction before with
  | nil =>
      rcases List.infix_cons_iff.mp twice with first | later
      · exact absurd (List.cons_prefix_cons.mp first).1.symm different
      · exact later
  | cons first before ih =>
      rcases List.infix_cons_iff.mp twice with begins | later
      · obtain ⟨rfl, next⟩ := List.cons_prefix_cons.mp begins
        -- the second of the two stands before the other sign as well
        cases before with
        | nil => exact absurd (List.cons_prefix_cons.mp next).1.symm different
        | cons second before =>
            obtain ⟨rfl, -⟩ := List.cons_prefix_cons.mp next
            exact ⟨[], before ++ after, rfl⟩
      · exact List.infix_cons (ih later)

namespace Outline

variable {text line : Text}

/-- A title on one line has single spaces. -/
theorem spaced_title (shown : text.isBlank = false) : (title text).Spaced where
  single sign member blank := by
    rcases mem_title member with space | ⟨-, solid⟩
    · exact space
    · rw [solid] at blank
      cases blank
  apart := by
    rintro ⟨before, after, same⟩
    have pieces : Text.splitAt Sign.space (title text) = text.words :=
      Text.splitAt_joinWith (Text.words_ne_nil shown) fun word member space =>
        absurd ((Text.word_of_mem_words member).1.solid _ space) (by decide)
    -- between two spaces in a row there would be an empty word
    rw [← same, List.append_assoc, List.cons_append, List.cons_append, Text.splitAt_append,
      List.nil_append, Text.splitAt_cons_self] at pieces
    have member : [] ∈ text.words := by
      rw [← pieces]
      exact List.mem_append_right _ List.mem_cons_self
    exact (Text.word_of_mem_words member).1.shown rfl

/-- A trimmed text with single spaces is the title that it gives. -/
theorem title_of_spaced (filled : text ≠ []) (trimmed : text.Trimmed) (spaced : text.Spaced) :
    title text = text := by
  have ends : text.getLast? ≠ some Sign.space := fun same => by
    cases trimmed.last _ same
  have begins : text.head? ≠ some Sign.space := fun same => by
    cases trimmed.first _ same
  have isWord : ∀ piece ∈ Text.splitAt Sign.space text, Text.Word piece := by
    intro piece member
    refine ⟨(Text.ne_nil_of_mem_tail_splitAt filled ends spaced.apart).2 begins piece member, ?_⟩
    intro sign inside
    by_contra blank
    rw [Bool.not_eq_false] at blank
    obtain rfl := spaced.single sign (Text.mem_of_mem_splitAt member inside) blank
    exact Text.not_mem_of_mem_splitAt member inside
  have words := Text.words_joinWith isWord
  rw [Text.joinWith_splitAt] at words
  rw [title, words, Text.joinWith_splitAt]

/-! ## (2) Lines -/

/-- The signs with which a block begins. -/
def openingMarks : Text := "#>*+-=`~<"

theorem opensBlock_iff {sign : Nat} : opensBlock sign = true ↔ sign ∈ openingMarks := by
  have marks : openingMarks = [Sign.hash, Sign.greaterThan, Sign.asterisk, Sign.plus, Sign.hyphen,
      Sign.equals, Sign.backtick, Sign.tilde, Sign.lessThan] := by decide
  rw [marks]
  simp only [opensBlock, Bool.or_eq_true, beq_iff_eq, List.mem_cons, List.not_mem_nil, or_false,
    or_assoc]

/-- A line that shows something, is trimmed and opens no block. -/
structure NormalLine (line : Text) : Prop where
  /-- There is something to see. -/
  shown : line ≠ []
  /-- It has no white space at its ends. -/
  trimmed : line.Trimmed
  /-- It does not begin with the sign of a block. -/
  begins : ∀ sign, line.head? = some sign → sign ∉ openingMarks
  /-- It does not begin with the mark of an ordered list. -/
  unordered : ∀ digits mark rest, ¬ Ordered line digits mark rest

/-- The second line is the first with at most one backslash more. -/
def Escapes (line escaped : Text) : Prop :=
  escaped = line ∨
    ∃ before after, line = before ++ after ∧ escaped = before ++ Sign.backslash :: after

theorem Escaped.escapes {escaped : Text} (h : Escaped line escaped) : Escapes line escaped := by
  cases h with
  | ordered ordered => exact .inr ⟨_, _, ordered.parts, rfl⟩
  | opening _ _ => exact .inr ⟨[], line, rfl, rfl⟩
  | plain _ _ => exact .inl rfl

/-- A backslash is no white space, and so keeps the spaces apart. -/
theorem Escapes.spaced {escaped : Text} (escapes : Escapes line escaped) (spaced : line.Spaced) :
    escaped.Spaced := by
  rcases escapes with rfl | ⟨before, after, rfl, rfl⟩
  · exact spaced
  · refine ⟨fun sign member blank => ?_, fun twice => spaced.apart ?_⟩
    · rcases List.mem_append.mp member with member | member
      · exact spaced.single sign (List.mem_append_left _ member) blank
      · rcases List.mem_cons.mp member with rfl | member
        · cases blank
        · exact spaced.single sign (List.mem_append_right _ member) blank
    · exact Text.isInfix_of_insert (by decide) twice

/-- No digit begins a block. -/
theorem not_mem_openingMarks {digit : Nat} (decimal : Sign.isDecimal digit = true) :
    digit ∉ openingMarks := by
  intro opens
  have other := beginsMarkup_of_isDecimal decimal
  rw [beginsMarkup, opensBlock_iff.mpr opens] at other
  cases other

/-- An escaped line does not begin with the sign of a block. -/
theorem Escaped.not_mem_openingMarks {escaped : Text} (h : Escaped line escaped) {sign : Nat}
    (first : escaped.head? = some sign) : sign ∉ openingMarks := by
  cases h with
  | ordered ordered =>
      obtain ⟨digit, digits, rfl⟩ := List.exists_cons_of_ne_nil ordered.begins
      obtain rfl := Option.some.inj first
      exact Outline.not_mem_openingMarks (ordered.decimal digit List.mem_cons_self)
  | opening _ _ =>
      obtain rfl := Option.some.inj first
      decide
  | plain _ opensNone =>
      intro opens
      rw [← opensBlock_iff, opensNone sign first] at opens
      cases opens

/-- **An escaped line is normal.** -/
theorem normalLine_escapeLine (shown : line.isBlank = false) : NormalLine (escapeLine line) where
  shown := by
    rw [Ne, escapeLine_eq_nil_iff, shown]
    exact Bool.false_ne_true
  trimmed := trimmed_escapeLine line
  begins _ first := (escaped_escapeLine line).not_mem_openingMarks first
  unordered _ _ _ := (escaped_escapeLine line).not_ordered

/-- A normal line is left alone. -/
theorem escapeLine_of_normalLine (normal : NormalLine line) : escapeLine line = line := by
  have escaped := escaped_escapeLine line
  rw [Text.strip_eq_self normal.trimmed] at escaped
  generalize escapeLine line = result at escaped
  cases escaped with
  | ordered ordered => exact absurd ordered (normal.unordered _ _ _)
  | @opening sign rest same opens =>
      exact absurd (opensBlock_iff.mp opens) (normal.begins sign (by rw [same]; rfl))
  | plain _ _ => rfl

/-- A normal line begins with a sign to see. -/
theorem NormalLine.exists_cons (normal : NormalLine line) :
    ∃ sign rest, line = sign :: rest ∧ Sign.isBlank sign = false := by
  obtain ⟨sign, rest, rfl⟩ := List.exists_cons_of_ne_nil normal.shown
  exact ⟨sign, rest, rfl, normal.trimmed.first sign rfl⟩

/-! ## (3) Titles -/

/-- A normal line with single spaces is left alone as a title. -/
theorem foldLine_of_normalLine (normal : NormalLine line) (spaced : line.Spaced) :
    foldLine line = line := by
  rw [foldLine_eq, title_of_spaced normal.shown normal.trimmed spaced,
    escapeLine_of_normalLine normal]

/-- What a title is on one line. -/
theorem normalLine_foldLine (shown : text.isBlank = false) :
    NormalLine (foldLine text) ∧ (foldLine text).Spaced ∧ Escapes (title text) (foldLine text) := by
  have escapes := (escaped_escapeLine (title text)).escapes
  rw [Text.strip_eq_self (trimmed_title (Text.words_ne_nil shown)).2, ← foldLine_eq] at escapes
  exact ⟨normalLine_escapeLine (isBlank_title_of_shown shown), escapes.spaced (spaced_title shown),
    escapes⟩

/-! ## (4) Texts of normal lines -/

/-- What stands before a line feed ends a line. -/
theorem exists_line_of_return {before after : Text} {sign : Nat} (other : sign ≠ Sign.newline) :
    ∃ line ∈ Text.lines (before ++ sign :: Sign.newline :: after), line.getLast? = some sign := by
  have parts : before ++ sign :: Sign.newline :: after =
      (before ++ [sign]) ++ Sign.newline :: after := by
    rw [List.append_assoc]
    rfl
  rw [parts, Text.lines_append]
  obtain ⟨front, last, absent, same⟩ : ∃ front last : Text, Sign.newline ∉ last ∧
      (before = last ∨ before = front ++ Sign.newline :: last) := by
    by_cases member : Sign.newline ∈ before
    · obtain ⟨front, last, same, absent⟩ := Text.exists_last_of_mem member
      exact ⟨front, last, absent, .inr same⟩
    · exact ⟨[], before, member, .inl rfl⟩
  have line : Text.lines (last ++ [sign]) = [last ++ [sign]] :=
    Text.splitAt_of_not_mem fun member => by
      rcases List.mem_append.mp member with member | member
      · exact absent member
      · exact other (List.mem_singleton.mp member).symm
  refine ⟨last ++ [sign], List.mem_append_left _ ?_, List.getLast?_concat⟩
  rcases same with rfl | rfl
  · rw [line]
    exact List.mem_singleton_self _
  · rw [List.append_assoc, List.cons_append, Text.lines_append, line]
    exact List.mem_append_right _ (List.mem_singleton_self _)

/-- A text whose first line begins with something to see has no line end before it. -/
theorem lineEnds_of_lines {first : Text} {others : List Text} (lines : text.lines = first :: others)
    (solid : ∃ sign rest, first = sign :: rest ∧ Sign.isBlank sign = false) :
    lineEnds text = false := by
  obtain ⟨sign, rest, rfl, solid⟩ := solid
  have whole := Text.joinWith_splitAt Sign.newline text
  rw [← Text.lines, lines, Text.joinWith_cons, List.cons_append] at whole
  rw [← whole, lineEnds_cons, solid]
  rfl

/-- Lines that begin with something to see leave no blank line behind a line feed. -/
theorem unbroken_of_lines
    (solid : ∀ line ∈ text.lines.tail, ∃ sign rest, line = sign :: rest ∧
      Sign.isBlank sign = false) : Unbroken text := by
  induction text with
  | nil => trivial
  | cons sign text ih =>
      obtain ⟨first, others, lines⟩ := Text.exists_splitAt_eq_cons Sign.newline text
      by_cases same : sign = Sign.newline
      · rw [same, Text.lines, Text.splitAt_cons_self, List.tail_cons] at solid
        have own := solid first (by rw [lines]; exact List.mem_cons_self)
        exact ⟨fun _ => lineEnds_of_lines lines own,
          ih fun line member => solid line (List.mem_of_mem_tail member)⟩
      -- another sign belongs to the first line, of which nothing is asked
      · rw [Text.lines, Text.splitAt_cons_of_ne same lines, List.tail_cons] at solid
        refine ⟨fun h => absurd h same, ih fun line member => solid line ?_⟩
        rwa [Text.lines, lines, List.tail_cons] at member

/-- Normal lines make a trimmed text. -/
theorem trimmed_of_normalLine (normal : ∀ line ∈ text.lines, NormalLine line) :
    text ≠ [] ∧ text.Trimmed := by
  have trimmed := Text.trimmed_joinWith [Sign.newline] (Text.lines_ne_nil text)
    fun line member => ⟨(normal line member).shown, (normal line member).trimmed⟩
  rwa [Text.lines, Text.joinWith_splitAt] at trimmed

/-- **A text of normal lines is left alone.** -/
theorem normalise_of_normalLine (normal : ∀ line ∈ text.lines, NormalLine line) :
    normalise text = text := by
  have returns : ¬ [Sign.carriageReturn, Sign.newline] <:+: text := by
    rintro ⟨before, after, rfl⟩
    rw [List.append_assoc] at normal
    obtain ⟨line, member, last⟩ :=
      @exists_line_of_return before after Sign.carriageReturn (by decide)
    cases (normal line member).trimmed.last _ last
  have unbroken : Unbroken text := unbroken_of_lines fun line member =>
    (normal line (List.mem_of_mem_tail member)).exists_cons
  have escaped : text.lines.map escapeLine = text.lines := by
    rw [List.map_congr_left fun line member => escapeLine_of_normalLine (normal line member)]
    exact List.map_id' _
  rw [normalise, dropReturns_of_not_infix returns, foldBlankLines_of_unbroken unbroken,
    Text.strip_eq_self (trimmed_of_normalLine normal).2, escaped]
  exact Text.joinWith_splitAt _ _

/-! ## (5) Normalised texts -/

/-- The lines of a text on which there is something to see, without the white space around them. -/
def shownLines (text : Text) : List Text :=
  (text.lines.filter fun line => !line.isBlank).map Text.strip

theorem shownLines_append (before after : Text) :
    shownLines (before ++ Sign.newline :: after) = shownLines before ++ shownLines after := by
  rw [shownLines, Text.lines_append, List.filter_append, List.map_append, shownLines, shownLines]

/-- White space around one line makes no difference. -/
theorem shownLines_of_not_mem (absent : Sign.newline ∉ text) :
    shownLines text = if text.isBlank then [] else [text.strip] := by
  rw [shownLines, Text.lines, Text.splitAt_of_not_mem absent]
  cases blank : text.isBlank with
  | true => simp [blank]
  | false => simp [blank]

/-- White space before a text makes no difference. -/
theorem shownLines_blank_append {before : Text} (blank : before.isBlank = true) (text : Text) :
    shownLines (before ++ text) = shownLines text := by
  induction before with
  | nil => rfl
  | cons sign before ih =>
      rw [Text.isBlank, List.all_cons, Bool.and_eq_true] at blank
      rw [← ih blank.2, List.cons_append]
      generalize before ++ text = behind
      by_cases same : sign = Sign.newline
      · rw [same]
        exact shownLines_append [] behind
      · obtain ⟨first, others, lines⟩ := Text.exists_splitAt_eq_cons Sign.newline behind
        have own : Text.isBlank (sign :: first) = first.isBlank ∧
            Text.strip (sign :: first) = first.strip := by
          constructor
          · rw [Text.isBlank, List.all_cons, blank.1, Bool.true_and, ← Text.isBlank]
          · rw [Text.strip, Text.stripStart, List.dropWhile_cons_of_pos blank.1]
            rfl
        rw [shownLines, shownLines, Text.lines, Text.splitAt_cons_of_ne same lines, Text.lines,
          lines, List.filter_cons, List.filter_cons, own.1]
        split
        · rw [List.map_cons, List.map_cons, own.2]
        · rfl

/-- White space behind a text makes no difference. -/
theorem shownLines_append_blank {after : Text} (blank : after.isBlank = true) (text : Text) :
    shownLines (text ++ after) = shownLines text := by
  induction after generalizing text with
  | nil => rw [List.append_nil]
  | cons sign after ih =>
      rw [Text.isBlank, List.all_cons, Bool.and_eq_true] at blank
      rw [← List.singleton_append, ← List.append_assoc, ih blank.2]
      by_cases same : sign = Sign.newline
      · rw [same, shownLines_append]
        exact List.append_nil _
      · -- the sign belongs to the last line
        have single {last : Text} (absent : Sign.newline ∉ last) :
            shownLines (last ++ [sign]) = shownLines last := by
          have still : Sign.newline ∉ last ++ [sign] := fun member => by
            rcases List.mem_append.mp member with member | member
            · exact absent member
            · exact same (List.mem_singleton.mp member).symm
          have white : Text.isBlank [sign] = true := by
            rw [Text.isBlank, List.all_cons, blank.1]
            rfl
          have stripped : Text.strip (last ++ [sign]) = last.strip :=
            @Text.strip_pad [] [sign] rfl last white
          rw [shownLines_of_not_mem still, shownLines_of_not_mem absent, stripped,
            Text.isBlank_append, white, Bool.and_true]
        by_cases member : Sign.newline ∈ text
        · obtain ⟨front, last, rfl, absent⟩ := Text.exists_last_of_mem member
          rw [List.append_assoc, List.cons_append, shownLines_append, shownLines_append,
            single absent]
        · exact single member

/-- So trimming a text changes none of the lines that show something. -/
theorem shownLines_strip (text : Text) : shownLines text.strip = shownLines text := by
  obtain ⟨before, after, blankBefore, blankAfter, whole⟩ := Text.exists_append_strip_append text
  conv_rhs => rw [whole]
  rw [shownLines_blank_append blankBefore, shownLines_append_blank blankAfter]

/-- The lines of a normalised text. -/
theorem lines_normalise (text : Text) : (normalise text).lines = normalLines text := by
  refine Text.splitAt_joinWith (normalLines_ne_nil text) fun line member feed => ?_
  obtain ⟨source, own, rfl⟩ := List.mem_map.mp member
  rcases mem_escapeLine feed with same | feed
  · cases same
  · exact Text.not_mem_of_mem_splitAt own feed

/-- If a text is not blank, each line of the folded text shows something. -/
theorem isBlank_of_mem_lines_folded (shown : text.isBlank = false)
    (member : line ∈ (folded text).lines) : line.isBlank = false := by
  refine isBlank_of_mem_lines (unbroken_folded text) ?_ (trimmed_folded text) member
  rw [folded, Ne, Text.strip_eq_nil_iff, isBlank_fold_of_shown shown]
  exact Bool.false_ne_true

/-- So it is normalised to a normal line. -/
theorem normalLine_of_mem_normalise (shown : text.isBlank = false)
    (member : line ∈ (normalise text).lines) : NormalLine line := by
  rw [lines_normalise] at member
  obtain ⟨source, own, rfl⟩ := List.mem_map.mp member
  exact normalLine_escapeLine (isBlank_of_mem_lines_folded shown own)

/-- The lines of a normalised text are those that show something, with backslashes. -/
theorem escapes_shownLines (shown : text.isBlank = false) :
    List.Forall₂ Escapes (shownLines (foldBlankLines (dropReturns text)))
      (normalise text).lines := by
  have every : (folded text).lines.filter (fun line => !line.isBlank) = (folded text).lines :=
    List.filter_eq_self.mpr fun line member => by rw [isBlank_of_mem_lines_folded shown member]; rfl
  rw [← shownLines_strip, ← folded, shownLines, every, lines_normalise, normalLines,
    List.forall₂_map_left_iff, List.forall₂_map_right_iff, List.forall₂_same]
  exact fun line _ => (escaped_escapeLine line).escapes

/-- A text that is not blank is shown in normal form. -/
theorem body_of_shown (shown : text.isBlank = false) (placeholder : Text) :
    body (some (.text text)) placeholder = normalise text := by
  have display : (Json.text text).display = text := rfl
  rw [body_some, shownValue, isVoid_of_shown shown, display, shown]
  rfl

/-! ## (6) Normal form -/

/-- **The normal form of a text.** Of a text that is not blank, what is shown are normal lines. They
are those of the text that show something, once carriage returns before line feeds are dropped and
runs of blank lines are spaces, with at most one backslash more in each. A title is one such line,
with single spaces between the words of the text. What is shown is shown as it is a second time. -/
theorem normal_form (shown : text.isBlank = false) (placeholder : Text) :
    let normal := body (some (.text text)) placeholder
    let single := heading (some (.text text)) placeholder
    (∀ line ∈ normal.lines, NormalLine line) ∧
      (∃ folded, Folds (dropReturns text) folded ∧
        List.Forall₂ Escapes (shownLines folded) normal.lines) ∧
      (NormalLine single ∧ single.Spaced ∧
        Escapes (Text.joinWith [Sign.space] text.words) single) ∧
      ∀ other, body (some (.text normal)) other = normal ∧
        heading (some (.text single)) other = single := by
  intro normal single
  have form : normal = normalise text := body_of_shown shown placeholder
  have line : single = foldLine text := heading_of_shown shown placeholder
  have lines : ∀ line ∈ normal.lines, NormalLine line := fun line member =>
    normalLine_of_mem_normalise shown (by rwa [← form])
  obtain ⟨own, spaced, escapes⟩ := normalLine_foldLine shown
  rw [← line] at own spaced escapes
  refine ⟨lines, ⟨_, folds_foldBlankLines _, ?_⟩, ⟨own, spaced, escapes⟩, fun other => ⟨?_, ?_⟩⟩
  · rw [form]
    exact escapes_shownLines shown
  · obtain ⟨filled, trimmed⟩ := trimmed_of_normalLine lines
    rw [body_of_shown (trimmed.isBlank filled), normalise_of_normalLine lines]
  · rw [heading_of_shown (own.trimmed.isBlank own.shown), foldLine_of_normalLine own spaced]

/-- Numbers of two scripts, a mark that a run of blank lines puts within a line, and carriage
returns before another one. -/
theorem normal_form_mixed :
    let normal : Text := "1\\. a # b\n\\- c\n\u0663\\)"
    let single : Text := "1\\. a # b - c \u0663)"
    let text : Text := "\n 1. a\r\n\x0c\n \n# b \r\r\n- c\n\u0663)\x0b\n"
    body (some (.text text)) [] = normal ∧ heading (some (.text text)) [] = single ∧
      (∀ line ∈ normal.lines, NormalLine line) ∧ NormalLine single ∧ single.Spaced ∧
      ∀ other, body (some (.text normal)) other = normal ∧
        heading (some (.text single)) other = single := by
  intro normal single text
  have form : body (some (.text text)) [] = normal := by decide +kernel
  have line : heading (some (.text text)) [] = single := by decide +kernel
  have h := @normal_form text (by decide) []
  rw [form, line] at h
  obtain ⟨lines, -, ⟨own, spaced, -⟩, again⟩ := h
  exact ⟨form, line, lines, own, spaced, again⟩

end Outline

end Coursework
