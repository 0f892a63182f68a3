import Coursework.Proofs.Outline.Sections
import Coursework.Remote.Document

/-! # The document of an assignment as content

The document of an assignment begins with the heading of its title. So it is never taken for JSON,
and what is compiled is the document itself; and the title is the first of its tokens.

* **`Outline.looksLikeJson_renderFields`**, **`Content.markdown_render`** and
  **`Remote.compiled_render`** say that the document is inserted and compiled as it is.
* **`Outline.exists_heading_first`**: its first token is the heading of the title, so there is
  something to insert. -/

namespace Coursework

namespace Outline

open Markdown

variable {placeholders : Placeholders}

/-- A document begins with the mark of a heading. -/
theorem exists_renderFields_eq (placeholders : Placeholders) (fields : List (Text × Json)) :
    ∃ rest, renderFields placeholders fields = Sign.hash :: rest := by
  obtain ⟨title, others, h⟩ : ∃ title others,
      blocks placeholders fields = (Sign.hash :: title) :: others := ⟨_, _, rfl⟩
  have solid : Sign.isBlank Sign.hash = false := by decide
  rw [renderFields, h, Text.joinWith_cons, List.cons_append]
  exact Text.exists_strip_cons solid _

/-- A document is not taken for JSON. -/
theorem looksLikeJson_renderFields (placeholders : Placeholders) (fields : List (Text × Json)) :
    Content.looksLikeJson (renderFields placeholders fields) = false := by
  have trimmed : (renderFields placeholders fields).Trimmed := Text.trimmed_strip _
  rw [Content.looksLikeJson, Text.strip_eq_self trimmed]
  obtain ⟨rest, h⟩ := exists_renderFields_eq placeholders fields
  rw [h]
  rfl

/-- The title of an object is the first token of its document, whatever the texts behind it open. -/
theorem exists_heading_first (presentable : Presentable placeholders)
    (fields : List (Text × Json)) :
    ∃ labels, (Token.ofMarkdown (renderFields placeholders fields)).head? =
      some (.heading 1 (Inline.visible labels
        (headingPart 1 (heading (Json.fieldIn? "title" fields) placeholders.title)).source)) := by
  have begins := begins_headingPart (Nat.le_refl 1) (by decide)
    (heading (Json.fieldIn? "title" fields) placeholders.title)
  obtain ⟨newer, found⟩ := Part.exists_blocks_readLines (renderFields placeholders fields).length 0
    begins (headingPart 2 "Deadline") ((parts placeholders fields).drop 2)
  have shown := renderFields_ne_nil presentable fields
  have blocks : (Block.ofText (renderFields placeholders fields)).1 =
      Block.heading 1 (headingPart 1
        (heading (Json.fieldIn? "title" fields) placeholders.title)).source :: newer.reverse := by
    rw [Block.ofText, linesOf_renderFields presentable]
    exact (congrArg List.reverse found).trans List.reverse_append
  have tokens : Token.ofMarkdown (renderFields placeholders fields) =
      (Block.ofText (renderFields placeholders fields)).1.map
        (Token.ofBlock ((Block.ofText (renderFields placeholders fields)).2.map (·.label))) := by
    rw [Token.ofMarkdown, if_neg (mt List.isEmpty_iff.mp shown)]
  rw [tokens, blocks]
  exact ⟨_, rfl⟩

end Outline

/-- A text is inserted as markdown unless it looks like JSON. -/
theorem Content.markdown_text (placeholders : Placeholders) (text : Text) :
    Content.markdown placeholders (.value (.text text)) = markdownOfText placeholders text := rfl

/-- The document of an assignment is inserted as it is, also where other placeholders are used. -/
theorem Content.markdown_render (placeholders others : Placeholders) (record : Record) :
    Content.markdown others (.value (.text (Outline.render placeholders record))) =
      .ok (Outline.render placeholders record) := by
  have plain := Outline.looksLikeJson_renderFields placeholders (record.toJson.toFields?.getD [])
  rw [Content.markdown_text, markdownOfText, Outline.render, Outline.renderJson, plain]
  rfl

/-- It is compiled as it is, too. -/
theorem Remote.compiled_render (record : Record) :
    compiled (.value (.text (Outline.render .usual record))) =
      Compilation.ofMarkdown (Outline.render .usual record) := by
  rw [compiled, Content.compile, Content.markdown_render]
  simp only [bind, Except.bind]

end Coursework
