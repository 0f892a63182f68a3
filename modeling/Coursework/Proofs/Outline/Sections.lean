import Coursework.Proofs.Markdown.Parts
import Coursework.Proofs.Outline.Folding
import Coursework.Proofs.Text.Words

/-! # Documents in sections

The document of an object is a sequence of parts in the sense of markdown: a title, and sections of
a heading and one or more texts. What is read of it line by line are the lines of these parts.

* **`Outline.parts`** are the parts of a document.
* **`Outline.linesOf_renderFields`**: they make up its lines.
* **`Outline.begins_parts`**: each of them begins behind a blank line. -/

namespace Coursework.Outline

open Markdown

/-! ## (1) Lines of joined texts -/

/-- Line ends are made alike in every piece. -/
theorem unixLines_joinWith_blank {pieces : List Text}
    (shown : ∀ piece ∈ pieces, piece ≠ [] ∧ piece.Trimmed) :
    (Text.joinWith [Sign.newline, Sign.newline] pieces).unixLines =
      Text.joinWith [Sign.newline, Sign.newline] (pieces.map Text.unixLines) := by
  induction pieces with
  | nil => rfl
  | cons piece pieces ih =>
      obtain ⟨hpiece, hpieces⟩ := List.forall_mem_cons.mp shown
      cases pieces with
      | nil => rfl
      | cons next pieces =>
          have hlast : piece.getLast? ≠ some Sign.carriageReturn := by
            intro h
            exact absurd (hpiece.2.last _ h) (by decide)
          rw [Text.joinWith_cons_cons, List.append_assoc,
            Text.unixLines_append fun h => absurd h hlast, List.cons_append, List.singleton_append,
            Text.unixLines_cons (by decide), Text.unixLines_cons (by decide), ih hpieces,
            List.map_cons, List.map_cons, List.map_cons, Text.joinWith_cons_cons, List.append_assoc]
          rfl

/-- A trimmed text does not end with a line end, nor does it when line ends are made alike. -/
theorem endsWith_unixLines {text : Text} (trimmed : text.Trimmed) :
    text.unixLines.endsWith [Sign.newline] = false := by
  rcases List.eq_nil_or_concat text with rfl | ⟨front, last, rfl⟩
  · rfl
  · have hlast := trimmed.last last (by rw [List.concat_eq_append, List.getLast?_concat])
    have hreturn : last ≠ Sign.carriageReturn := by
      rintro rfl
      cases hlast
    have hnewline : last ≠ Sign.newline := by
      rintro rfl
      cases hlast
    have apart : front.getLast? = some Sign.carriageReturn →
        [last].head? ≠ some Sign.newline := fun _ h => hnewline (Option.some.inj h)
    rw [List.concat_eq_append, Text.unixLines_append apart,
      Text.unixLines_cons hreturn, Text.endsWith, List.reverse_append]
    simp [Text.unixLines, Text.startsWith, hnewline]

/-- The lines of texts with a blank line between each two. -/
theorem linesOf_joinWith_blank {piece : Text} {pieces : List Text}
    (shown : ∀ text ∈ piece :: pieces, text ≠ [] ∧ text.Trimmed) :
    linesOf (Text.joinWith [Sign.newline, Sign.newline] (piece :: pieces)) =
      piece.unixLines.lines ++ pieces.flatMap ([] :: ·.unixLines.lines) := by
  have trimmed := (Text.trimmed_joinWith [Sign.newline, Sign.newline] (List.cons_ne_nil _ _)
    shown).2
  simp only [linesOf, endsWith_unixLines trimmed, Bool.false_eq_true, if_false]
  rw [unixLines_joinWith_blank shown, List.map_cons, Text.lines_joinWith_blank, List.flatMap_map]

/-! ## (2) Parts of a document -/

/-- A heading with number signs. -/
def headingPart (depth : Nat) (content : Text) : Part :=
  .heading (List.replicate depth Sign.hash ++ Sign.space :: content) depth
    (Line.withoutClosing (Text.trim Line.isTrimmed (Sign.space :: content)))

/-- A heading with one to six number signs is read as one. -/
theorem begins_headingPart {depth : Nat} (least : 1 ≤ depth) (most : depth ≤ 6) (content : Text) :
    (headingPart depth content).Begins where
  seen := by
    obtain ⟨count, rfl⟩ := Nat.exists_eq_add_of_le' least
    rfl
  reads line found shown h := by
    obtain ⟨rfl, rfl, rfl⟩ := Part.heading.inj h
    obtain ⟨count, hcount⟩ := Nat.exists_eq_add_of_le' least
    have hline : List.replicate depth Sign.hash ++ Sign.space :: content =
        Sign.hash :: (List.replicate count Sign.hash ++ Sign.space :: content) := by
      rw [hcount]
      rfl
    have hafter : Line.afterIndentation? 3 (List.replicate depth Sign.hash ++
        Sign.space :: content) =
          some (List.replicate depth Sign.hash ++ Sign.space :: content) := by
      rw [hline]
      rfl
    have hmarks : (List.replicate depth Sign.hash ++ Sign.space :: content).takeWhile
        (· == Sign.hash) = List.replicate depth Sign.hash := by
      rw [List.takeWhile_append_of_pos (by simp), List.takeWhile_cons_of_neg (by decide),
        List.append_nil]
    have hcontent : (List.replicate depth Sign.hash ++ Sign.space :: content).dropWhile
        (· == Sign.hash) = Sign.space :: content := by
      rw [List.dropWhile_append_of_pos (by simp)]
      rfl
    refine ⟨?_, ?_, ?_⟩
    · rw [Line.fence?, hafter, hline]
      rfl
    · rw [hline]
      rfl
    · rw [Line.heading?, hafter]
      simp only [hmarks, hcontent, List.length_replicate]
      rw [if_pos]
      simp [least, most, Line.isInline]

/-- The lines of a text as a part of a document. -/
def textPart (content : Text) : Part :=
  match content.unixLines.lines with
  | [] => .text [] []
  | first :: more => .text first more

theorem textPart_eq {content first : Text} {more : List Text}
    (h : content.unixLines.lines = first :: more) : textPart content = .text first more := by
  rw [textPart, h]

theorem lines_textPart (content : Text) :
    (textPart content).lines = content.unixLines.lines := by
  obtain ⟨first, more, h⟩ := Text.exists_splitAt_eq_cons Sign.newline content.unixLines
  rw [textPart_eq h]
  exact h.symm

theorem source_textPart (content : Text) : (textPart content).source = content.unixLines := by
  obtain ⟨first, more, h⟩ := Text.exists_splitAt_eq_cons Sign.newline content.unixLines
  rw [textPart_eq h, Part.source, ← h]
  exact Text.joinWith_splitAt Sign.newline content.unixLines

/-- A trimmed text begins behind a blank line. -/
theorem begins_textPart {content : Text} (shown : content ≠ []) (trimmed : content.Trimmed) :
    (textPart content).Begins := by
  obtain ⟨sign, rest, rfl⟩ := List.exists_cons_of_ne_nil shown
  have hsign := trimmed.first sign rfl
  have hreturn : sign ≠ Sign.carriageReturn := by
    rintro rfl
    cases hsign
  have hnewline : sign ≠ Sign.newline := by
    rintro rfl
    cases hsign
  obtain ⟨first, more, hrest⟩ := Text.exists_splitAt_eq_cons Sign.newline (Text.unixLines rest)
  have hlines := Text.splitAt_cons_of_ne hnewline hrest
  rw [← Text.unixLines_cons hreturn] at hlines
  rw [textPart_eq hlines]
  constructor
  · exact isBlank_cons_of_solid hsign first
  · intro line depth found h
    cases h

/-! ## (3) The texts -/

/-- The text of a field is the placeholder or a normalised text, either of which shows something. -/
theorem body_cases (value : Option Json) (placeholder : Text) :
    body value placeholder = placeholder ∨
      ∃ shown, value = some shown ∧ folded shown.display ≠ [] ∧
        body value placeholder = normalise shown.display := by
  cases value with
  | none => exact .inl rfl
  | some value =>
      rw [body]
      split
      · exact .inl rfl
      · split
        · exact .inl rfl
        · rename_i hblank
          refine .inr ⟨value, rfl, fun h => ?_, rfl⟩
          exact hblank (Text.strip_eq_nil_iff.mp h)

/-- A normalised text that is not blank is trimmed and shows something. -/
theorem trimmed_normalise {text : Text} (shown : folded text ≠ []) :
    normalise text ≠ [] ∧ (normalise text).Trimmed :=
  Text.trimmed_joinWith _ (normalLines_ne_nil text) fun _ h => normalLines_shown shown h

theorem trimmed_body (value : Option Json) {placeholder : Text}
    (h : placeholder ≠ [] ∧ placeholder.Trimmed) :
    body value placeholder ≠ [] ∧ (body value placeholder).Trimmed := by
  rcases body_cases value placeholder with hbody | ⟨shown, -, hshown, hbody⟩
  · rw [hbody]
    exact h
  · rw [hbody]
    exact trimmed_normalise hshown

/-- What is said of a task begins with a letter and ends with a parenthesis. -/
theorem exists_taskLine_eq (number : Nat) (description weightage : Text) :
    ∃ between, taskLine number description weightage =
      [84] ++ between ++ [Sign.rightParenthesis] := by
  refine ⟨("ask " : Text) ++ Text.ofNat number ++ ": " ++ description ++ " (Weightage: " ++
    weightage ++ " marks", ?_⟩
  simp [taskLine, Text.ofString]

theorem trimmed_taskLine (number : Nat) (description weightage : Text) :
    taskLine number description weightage ≠ [] ∧
      (taskLine number description weightage).Trimmed := by
  have hbegins : Text.Trimmed [84] := by decide
  have hends : Text.Trimmed [Sign.rightParenthesis] := by decide
  obtain ⟨between, h⟩ := exists_taskLine_eq number description weightage
  rw [h]
  exact ⟨List.cons_ne_nil _ _, hbegins.append hends (by decide) (by decide) between⟩

/-- The title on one line is the placeholder or the words of a text, either of which shows
something. -/
theorem heading_cases (value : Option Json) (placeholder : Text) :
    heading value placeholder = placeholder ∨
      ∃ shown, value = some shown ∧ shown.display.words ≠ [] ∧
        heading value placeholder = foldLine shown.display := by
  cases value with
  | none => exact .inl rfl
  | some value =>
      rw [heading]
      split
      · exact .inl rfl
      · rename_i h
        rw [Bool.or_eq_true, not_or, List.isEmpty_iff] at h
        exact .inr ⟨value, rfl, h.2, rfl⟩

/-- A text with something to see counts as given. -/
theorem isVoid_of_shown {text : Text} (shown : text.isBlank = false) :
    (Json.text text).isVoid = false := by
  cases text with
  | nil => cases shown
  | cons sign text => rfl

/-- It is the title if it stands in the field of the title. -/
theorem heading_of_shown {text : Text} (shown : text.isBlank = false) (placeholder : Text) :
    heading (some (.text text)) placeholder = foldLine text := by
  have words : (Json.text text).display.words.isEmpty = false :=
    List.isEmpty_eq_false_iff.mpr (Text.words_ne_nil shown)
  rw [heading, isVoid_of_shown shown, words]
  rfl

/-- The words of a text, joined by spaces. -/
def title (text : Text) : Text := Text.joinWith [Sign.space] text.words

theorem foldLine_eq (text : Text) : foldLine text = escapeLine (title text) := rfl

theorem trimmed_title {text : Text} (some : text.words ≠ []) :
    title text ≠ [] ∧ (title text).Trimmed := by
  refine Text.trimmed_joinWith _ some fun word h => ?_
  have hword := (Text.word_of_mem_words h).1
  exact ⟨hword.shown, hword.trimmed⟩

theorem isBlank_title_of_shown {text : Text} (shown : text.isBlank = false) :
    (title text).isBlank = false := by
  obtain ⟨some, trimmed⟩ := trimmed_title (Text.words_ne_nil shown)
  exact trimmed.isBlank some

/-- Its signs are spaces and those of the text that are no white space. -/
theorem mem_title {text : Text} {sign : Nat} (h : sign ∈ title text) :
    sign = Sign.space ∨ sign ∈ text ∧ Sign.isBlank sign = false := by
  rcases Text.mem_joinWith h with h | ⟨word, hword, h⟩
  · exact .inl (List.mem_singleton.mp h)
  · obtain ⟨hsolid, hsigns⟩ := Text.word_of_mem_words hword
    exact .inr ⟨hsigns sign h, hsolid.solid sign h⟩

/-- A title on one line is trimmed, and has no line ends. -/
theorem trimmed_foldLine {text : Text} (some : text.words ≠ []) :
    foldLine text ≠ [] ∧ (foldLine text).Trimmed ∧
      ∀ sign ∈ foldLine text, sign ≠ Sign.newline ∧ sign ≠ Sign.carriageReturn := by
  refine ⟨fun h => ?_, trimmed_escapeLine _, fun sign h => ?_⟩
  · rw [foldLine_eq] at h
    have hblank := escapeLine_eq_nil_iff.mp h
    rw [← Text.strip_eq_nil_iff, Text.strip_eq_self (trimmed_title some).2] at hblank
    exact (trimmed_title some).1 hblank
  · rcases mem_escapeLine h with rfl | h
    · decide
    · rcases mem_title h with rfl | ⟨-, hsolid⟩
      · decide
      · constructor
        · rintro rfl
          cases hsolid
        · rintro rfl
          cases hsolid

/-! ## (4) The document -/

/-- Placeholders that can be shown: trimmed texts, that of the title on one line. -/
structure Presentable (placeholders : Placeholders) : Prop where
  /-- The texts show something and are trimmed. -/
  trimmed : ∀ text ∈ [placeholders.title, placeholders.deadline, placeholders.taskCount,
    placeholders.totalMarks, placeholders.criteria], text ≠ [] ∧ text.Trimmed
  /-- The title is one line. -/
  line : ∀ sign ∈ placeholders.title, sign ≠ Sign.newline ∧ sign ≠ Sign.carriageReturn

theorem presentable_usual : Presentable .usual where
  trimmed := by decide
  line := by decide

/-- The parts of the document of an object's fields. -/
def parts (placeholders : Placeholders) (fields : List (Text × Json)) : List Part :=
  let field (name : Text) := Json.fieldIn? name fields
  let tasks := field "tasks"
  [headingPart 1 (heading (field "title") placeholders.title),
    headingPart 2 "Deadline", textPart (body (field "deadline") placeholders.deadline),
    headingPart 2 "Number of Tasks",
    textPart (body (shownCount (field "numberOfTasks") tasks) placeholders.taskCount),
    headingPart 2 "Tasks"] ++ (taskBlocks placeholders tasks).map textPart ++
  [headingPart 2 "Total Weightage Marks",
    textPart (body (field "totalMarksWeightage") placeholders.totalMarks),
    headingPart 2 "Evaluation Criteria",
    textPart (body (field "evaluationCriteria") placeholders.criteria)]

/-- A heading on one line is that line. -/
theorem lines_headingPart (depth : Nat) {content : Text}
    (line : ∀ sign ∈ content, sign ≠ Sign.newline ∧ sign ≠ Sign.carriageReturn) :
    (Text.unixLines (List.replicate depth Sign.hash ++ Sign.space :: content)).lines =
      (headingPart depth content).lines := by
  have absent {sign : Nat} (hhash : sign ≠ Sign.hash) (hspace : sign ≠ Sign.space)
      (hcontent : sign ∉ content) :
      sign ∉ List.replicate depth Sign.hash ++ Sign.space :: content := by
    rw [List.mem_append, List.mem_cons, List.mem_replicate]
    rintro (⟨-, h⟩ | h | h)
    · exact hhash h
    · exact hspace h
    · exact hcontent h
  rw [Text.unixLines_of_not_mem (absent (by decide) (by decide) fun h => (line _ h).2 rfl),
    Text.lines, Text.splitAt_of_not_mem (absent (by decide) (by decide) fun h => (line _ h).1 rfl)]
  rfl

/-- The title of a document shows something if its placeholder does. -/
theorem trimmed_heading (value : Option Json) {placeholder : Text}
    (h : placeholder ≠ [] ∧ placeholder.Trimmed) :
    heading value placeholder ≠ [] ∧ (heading value placeholder).Trimmed := by
  rcases heading_cases value placeholder with hheading | ⟨shown, -, some, hheading⟩
  · rw [hheading]
    exact h
  · rw [hheading]
    obtain ⟨shown, trimmed, -⟩ := trimmed_foldLine some
    exact ⟨shown, trimmed⟩

/-- It is on one line. -/
theorem line_heading {placeholders : Placeholders} (presentable : Presentable placeholders)
    (value : Option Json) : ∀ sign ∈ heading value placeholders.title,
      sign ≠ Sign.newline ∧ sign ≠ Sign.carriageReturn := by
  rcases heading_cases value placeholders.title with h | ⟨shown, -, some, h⟩
  · rw [h]
    exact presentable.line
  · rw [h]
    exact (trimmed_foldLine some).2.2

/-- Every block of the tasks is what is said of a task. -/
theorem exists_of_mem_taskBlocksFrom {placeholders : Placeholders} {tasks : List Json}
    {first : Nat} {block : Text} (member : block ∈ taskBlocksFrom placeholders first tasks) :
    ∃ number description weightage, block = taskLine number description weightage := by
  induction tasks generalizing first with
  | nil => exact absurd member List.not_mem_nil
  | cons task tasks ih =>
      rcases List.mem_cons.mp member with rfl | member
      · exact ⟨_, _, _, rfl⟩
      · exact ih member

theorem exists_of_mem_taskBlocks {placeholders : Placeholders} {tasks : Option Json}
    {block : Text} (member : block ∈ taskBlocks placeholders tasks) :
    ∃ number description weightage, block = taskLine number description weightage := by
  rw [taskBlocks] at member
  split at member <;> exact exists_of_mem_taskBlocksFrom member

variable {placeholders : Placeholders} (presentable : Presentable placeholders)
  (fields : List (Text × Json))

/-- Every part of a document is a heading of a block or a text that is one. -/
theorem mem_parts {fields : List (Text × Json)} {part : Part}
    (member : part ∈ parts placeholders fields) :
    (∃ depth content, part = headingPart depth content ∧ 1 ≤ depth ∧ depth ≤ 6 ∧
        List.replicate depth Sign.hash ++ Sign.space :: content ∈ blocks placeholders fields) ∨
      ∃ block ∈ blocks placeholders fields, part = textPart block := by
  simp only [parts, List.mem_append, List.mem_cons, List.not_mem_nil, or_false,
    List.mem_map] at member
  have heading (depth : Nat) (least : 1 ≤ depth) (most : depth ≤ 6) {content : Text}
      (h : List.replicate depth Sign.hash ++ Sign.space :: content ∈ blocks placeholders fields) :
      ∃ found text, headingPart depth content = headingPart found text ∧ 1 ≤ found ∧ found ≤ 6 ∧
        List.replicate found Sign.hash ++ Sign.space :: text ∈ blocks placeholders fields :=
    ⟨depth, content, rfl, least, most, h⟩
  rcases member with
    ((rfl | rfl | rfl | rfl | rfl | rfl) | ⟨block, h, rfl⟩) | (rfl | rfl | rfl | rfl)
  · exact .inl (heading 1 (by omega) (by omega) (by simp [blocks, Text.ofString]))
  · exact .inl (heading 2 (by omega) (by omega) (by simp [blocks, Text.ofString]))
  · exact .inr ⟨_, by simp [blocks], rfl⟩
  · exact .inl (heading 2 (by omega) (by omega) (by simp [blocks, Text.ofString]))
  · exact .inr ⟨_, by simp [blocks], rfl⟩
  · exact .inl (heading 2 (by omega) (by omega) (by simp [blocks, Text.ofString]))
  · exact .inr ⟨block, by simp [blocks, h], rfl⟩
  · exact .inl (heading 2 (by omega) (by omega) (by simp [blocks, Text.ofString]))
  · exact .inr ⟨_, by simp [blocks], rfl⟩
  · exact .inl (heading 2 (by omega) (by omega) (by simp [blocks, Text.ofString]))
  · exact .inr ⟨_, by simp [blocks], rfl⟩

section Trimmed

variable (trimmed : ∀ text ∈ [placeholders.title, placeholders.deadline, placeholders.taskCount,
  placeholders.totalMarks, placeholders.criteria], text ≠ [] ∧ text.Trimmed)

include trimmed

/-- Every block of a document is trimmed and shows something. -/
theorem trimmed_of_mem_blocks {block : Text} (member : block ∈ blocks placeholders fields) :
    block ≠ [] ∧ block.Trimmed := by
  simp only [List.forall_mem_cons] at trimmed
  obtain ⟨htitle, hdeadline, hcount, hmarks, hcriteria, -⟩ := trimmed
  have hheading : ("# " : Text) ++ heading (Json.fieldIn? "title" fields) placeholders.title ≠ [] ∧
      Text.Trimmed (("# " : Text) ++
        heading (Json.fieldIn? "title" fields) placeholders.title) := by
    obtain ⟨shown, trimmed⟩ := trimmed_heading (Json.fieldIn? "title" fields) htitle
    have hhash : Text.Trimmed [Sign.hash] := by decide
    exact ⟨List.cons_ne_nil _ _, hhash.append trimmed (List.cons_ne_nil _ _) shown [Sign.space]⟩
  have hsections : ∀ text ∈ [("## Deadline" : Text), "## Number of Tasks", "## Tasks",
      "## Total Weightage Marks", "## Evaluation Criteria"], text ≠ [] ∧ text.Trimmed := by
    decide
  simp only [List.forall_mem_cons] at hsections
  obtain ⟨sectionDeadline, sectionCount, sectionTasks, sectionMarks, sectionCriteria, -⟩ :=
    hsections
  simp only [blocks, List.mem_append, List.mem_cons, List.not_mem_nil, or_false] at member
  rcases member with ((rfl | rfl | rfl | rfl | rfl | rfl) | h) | (rfl | rfl | rfl | rfl)
  · exact hheading
  · exact sectionDeadline
  · exact trimmed_body _ hdeadline
  · exact sectionCount
  · exact trimmed_body _ hcount
  · exact sectionTasks
  · obtain ⟨number, description, weightage, rfl⟩ := exists_of_mem_taskBlocks h
    exact trimmed_taskLine number description weightage
  · exact sectionMarks
  · exact trimmed_body _ hmarks
  · exact sectionCriteria
  · exact trimmed_body _ hcriteria

theorem renderFields_eq_joinWith : renderFields placeholders fields =
    Text.joinWith [Sign.newline, Sign.newline] (blocks placeholders fields) := by
  rw [renderFields]
  refine Text.strip_eq_self (Text.trimmed_joinWith _ (List.cons_ne_nil _ _) fun block h => ?_).2
  exact trimmed_of_mem_blocks fields trimmed h

end Trimmed

include presentable

/-- The blocks of a document are the lines of its parts. -/
theorem map_lines_parts :
    (parts placeholders fields).map Part.lines =
      (blocks placeholders fields).map fun block => block.unixLines.lines := by
  have htitle : (Text.unixLines (("# " : Text) ++
      heading (Json.fieldIn? "title" fields) placeholders.title)).lines =
        (headingPart 1 (heading (Json.fieldIn? "title" fields) placeholders.title)).lines :=
    lines_headingPart 1 (line_heading presentable (Json.fieldIn? "title" fields))
  have hdeadline : (headingPart 2 "Deadline").lines =
      (Text.unixLines "## Deadline").lines := by decide
  have hcount : (headingPart 2 "Number of Tasks").lines =
      (Text.unixLines "## Number of Tasks").lines := by decide
  have htasks : (headingPart 2 "Tasks").lines = (Text.unixLines "## Tasks").lines := by decide
  have hmarks : (headingPart 2 "Total Weightage Marks").lines =
      (Text.unixLines "## Total Weightage Marks").lines := by decide
  have hcriteria : (headingPart 2 "Evaluation Criteria").lines =
      (Text.unixLines "## Evaluation Criteria").lines := by decide
  simp only [parts, blocks, List.map_append, List.map_cons, List.map_nil, List.map_map,
    lines_textPart, htitle, hdeadline, hcount, htasks, hmarks, hcriteria, Function.comp_def]

theorem renderFields_ne_nil : renderFields placeholders fields ≠ [] := by
  rw [renderFields_eq_joinWith fields presentable.trimmed]
  exact (Text.trimmed_joinWith _ (List.cons_ne_nil _ _) fun block h =>
    trimmed_of_mem_blocks fields presentable.trimmed h).1

/-- The lines of a document are those of its parts. -/
theorem linesOf_renderFields :
    linesOf (renderFields placeholders fields) = Part.linesOf (parts placeholders fields) := by
  rw [renderFields_eq_joinWith fields presentable.trimmed]
  have hlines := map_lines_parts presentable fields
  have htrimmed : ∀ block ∈ blocks placeholders fields, block ≠ [] ∧ block.Trimmed :=
    fun block h => trimmed_of_mem_blocks fields presentable.trimmed h
  revert hlines htrimmed
  -- both are lists with a first element
  cases parts placeholders fields with
  | nil => exact fun h => by cases h
  | cons part parts =>
      cases blocks placeholders fields with
      | nil => exact fun h => by cases h
      | cons block blocks =>
          intro hlines htrimmed
          rw [List.map_cons, List.map_cons, List.cons.injEq] at hlines
          have hmore := congrArg (List.flatMap fun lines : List Line => [] :: lines) hlines.2
          rw [List.flatMap_map, List.flatMap_map] at hmore
          rw [linesOf_joinWith_blank htrimmed, Part.linesOf, Part.behind_eq_flatMap, hlines.1]
          exact congrArg _ hmore.symm

/-- Every part of a document begins behind a blank line. -/
theorem begins_parts {part : Part} (member : part ∈ parts placeholders fields) : part.Begins := by
  rcases mem_parts member with ⟨depth, content, rfl, least, most, -⟩ | ⟨block, h, rfl⟩
  · exact begins_headingPart least most content
  · obtain ⟨shown, trimmed⟩ := trimmed_of_mem_blocks fields presentable.trimmed h
    exact begins_textPart shown trimmed

/-- A document is read as its parts, without any definitions, exactly if no line of a text opens a
block. -/
theorem ofText_renderFields_iff :
    Block.ofText (renderFields placeholders fields) =
        (Part.blocksOf (parts placeholders fields), []) ↔
      Part.AllStay (parts placeholders fields) := by
  have hread := Part.readLines_eq_iff (renderFields placeholders fields).length 0
    (parts placeholders fields) fun part h => begins_parts presentable fields h
  rw [← hread, Block.ofText, linesOf_renderFields presentable, Prod.mk.injEq]
  generalize readLines _ 0 {} _ = draft
  obtain ⟨blocks, definitions⟩ := draft
  rw [Draft.mk.injEq, List.reverse_eq_iff]

end Coursework.Outline
