import Coursework.Proofs.Document.Content
import Coursework.Proofs.Outline.Encodable
import Coursework.Proofs.Outline.Fidelity

/-! # The title of a document

The title of an object is the first token of its document, whatever the other fields have in them,
if only the document can be read. Of a title without marks all signs but white space are shown,
unless its words end with number signs, which close the heading.

* **`Outline.Unmarked`** holds of such titles; **`Unmarked.legible_title`**: on one line they are
  legible.
* **`Outline.begins_with_title_iff`** is the main statement. -/

namespace Coursework.Outline

open Markdown Inline

variable {text : Text}

/-! ## (1) Titles on one line -/

/-- The words of a title are those of the text. -/
theorem words_title (text : Text) : (title text).words = text.words :=
  Text.words_joinWith fun _ member => (Text.word_of_mem_words member).1

theorem title_title (text : Text) : title (title text) = title text := by
  rw [title, words_title, ← title]

/-- A title on one line is escaped like the text. -/
theorem foldLine_title (text : Text) : foldLine (title text) = foldLine text := by
  rw [foldLine_eq, title_title, ← foldLine_eq]

/-- A text that is not blank and has neither backslashes nor marks; it may have line ends of any
kind. -/
structure Unmarked (text : Text) : Prop where
  /-- There is something to be seen. -/
  shown : text.isBlank = false
  /-- No sign means anything within a line. -/
  plain : ∀ sign ∈ text, sign ≠ Sign.backslash ∧ isMarkup sign = false

instance (text : Text) : Decidable (Unmarked text) :=
  decidable_of_iff (text.isBlank = false ∧
      ∀ sign ∈ text, sign ≠ Sign.backslash ∧ isMarkup sign = false)
    ⟨fun h => ⟨h.1, h.2⟩, fun h => ⟨h.shown, h.plain⟩⟩

namespace Unmarked

variable (unmarked : Unmarked text)

include unmarked

/-- White space is all that would keep it from being legible, and that is folded. -/
theorem legible_title : Legible (title text) where
  shown := isBlank_title_of_shown unmarked.shown
  inert sign member := by
    rcases mem_title member with rfl | ⟨member, solid⟩
    · decide
    · obtain ⟨backslash, markup⟩ := unmarked.plain sign member
      refine isInert_iff.mpr ⟨backslash, markup, ?_⟩
      rintro rfl
      cases solid

/-- Its heading shows it exactly if it has no closing run. -/
theorem visible_iff {labels : List Text} :
    Inline.visible labels (headingPart 1 (foldLine text)).source = title text ↔
      hasClosingRun (title text) = false := by
  have line := @Legible.visible_title_iff _ unmarked.legible_title labels
  rwa [title_title, foldLine_title] at line

end Unmarked

/-! ## (2) Documents -/

variable {fields : List (Text × Json)}

/-- **A title is the first token of its document.** The document of an object whose title is a text
without marks is read exactly if the destinations of its links have addresses, which is so if no
field shows a surrogate. Then its first token is a heading of depth 1, whatever the other fields
are. It shows the words of the title with single spaces between them, exactly if they do not end
with number signs behind a space. -/
theorem begins_with_title_iff (given : Json.fieldIn? "title" fields = some (.text text))
    (unmarked : Unmarked text) :
    ((∃ tokens, Token.read (renderFields .usual fields) = .ok tokens) ↔
        Token.Addressed (renderFields .usual fields)) ∧
      ((∀ value ∈ shownValues fields, isPlain value = true) →
        Token.Addressed (renderFields .usual fields)) ∧
      ∀ tokens, Token.read (renderFields .usual fields) = .ok tokens →
        ∃ content, tokens.head? = some (.heading 1 content) ∧
          (content = title text ↔ hasClosingRun (title text) = false) := by
  refine ⟨?_, fun plain => Token.addressed_of_plain (hasSurrogate_renderFields plain),
    fun tokens read => ?_⟩
  · simp only [Token.read_eq_ok_iff, exists_and_left, exists_eq, and_true]
  · obtain ⟨labels, first⟩ := exists_heading_first presentable_usual fields
    rw [given, heading_of_shown unmarked.shown] at first
    rw [(Token.read_eq_ok_iff.mp read).2]
    exact ⟨_, first, unmarked.visible_iff⟩

/-- Line ends, the mark of a list, and number signs within the title and at its end are shown, in
front of fields that open other blocks and hold links. -/
theorem begins_with_title_marks :
    let fields : List (Text × Json) := [("title", .text "1.\r\n\t# of # \x0c b#\n"),
      ("deadline", .text "[a]: /b\n==="), ("numberOfTasks", .text "> 1 [c](d)"),
      ("tasks", .list [.text "- no task"])]
    ∃ tokens, Token.read (renderFields .usual fields) = .ok tokens ∧
      tokens.head? = some (.heading 1 "1. # of # b#") := by
  intro fields
  obtain ⟨read, addressed, begins⟩ :=
    @begins_with_title_iff "1.\r\n\t# of # \x0c b#\n" fields rfl (by decide)
  obtain ⟨tokens, found⟩ := read.mpr (addressed (by decide))
  obtain ⟨content, first, shown⟩ := begins tokens found
  refine ⟨tokens, found, ?_⟩
  rw [first, shown.mpr (by decide)]
  decide

/-- A title that ends with a number sign behind a space loses it. -/
theorem not_begins_with_title_hash :
    ¬ ∀ (fields : List (Text × Json)) (text : Text),
      Json.fieldIn? "title" fields = some (.text text) → Unmarked text →
      ∃ tokens, Token.read (renderFields .usual fields) = .ok tokens ∧
        tokens.head? = some (.heading 1 (title text)) := by
  intro shown
  obtain ⟨tokens, read, first⟩ := shown [("title", .text "a #")] "a #" rfl (by decide)
  rw [(Token.read_eq_ok_iff.mp read).2] at first
  revert first
  decide +kernel

end Coursework.Outline
