import Coursework.Proofs.Document.Parts
import Coursework.Proofs.Outline.Closing
import Coursework.Proofs.Outline.Spelling

/-! # Documents show their texts

Of an object whose fields are legible texts, the document shows each text in a paragraph of its own
and the title as a heading, with no escape left and no sign lost but for white space. The exception
is a title whose words end with number signs: they close the heading and are not shown.

* **`Outline.Sheet`** are the texts of an object, **`Sheet.tokens`** what should be shown of them.
* **`Legible.visible_title_iff`** says when the title is shown.
* **`Outline.ofMarkdown_renderFields_iff`** is the main statement. -/

namespace Coursework.Outline

open Markdown Inline

/-! ## (1) Texts of an object -/

/-- The texts of an object whose fields are texts. -/
structure Sheet where
  /-- The title. -/
  title : Text
  /-- The deadline. -/
  deadline : Text
  /-- The number of tasks, as it is written. -/
  taskCount : Text
  /-- The marks of the whole assignment. -/
  totalMarks : Text
  /-- The criteria. -/
  criteria : Text
  /-- The tasks, each with its marks. -/
  tasks : List (Text × Text)

namespace Sheet

/-- All texts. -/
def texts (sheet : Sheet) : List Text :=
  [sheet.title, sheet.deadline, sheet.taskCount, sheet.totalMarks, sheet.criteria] ++
    sheet.tasks.flatMap fun task => [task.1, task.2]

/-- An object has these texts in its fields. -/
structure Of (fields : List (Text × Json)) (sheet : Sheet) : Prop where
  /-- The title. -/
  title : Json.fieldIn? "title" fields = some (.text sheet.title)
  /-- The deadline. -/
  deadline : Json.fieldIn? "deadline" fields = some (.text sheet.deadline)
  /-- The number of tasks. -/
  taskCount : Json.fieldIn? "numberOfTasks" fields = some (.text sheet.taskCount)
  /-- The marks of the whole assignment. -/
  totalMarks : Json.fieldIn? "totalMarksWeightage" fields = some (.text sheet.totalMarks)
  /-- The criteria. -/
  criteria : Json.fieldIn? "evaluationCriteria" fields = some (.text sheet.criteria)
  /-- The tasks are listed in order. -/
  tasks : ∃ items, Json.fieldIn? "tasks" fields = some (.list items) ∧
    List.Forall₂ (fun item task => item.get? "description" = some (.text task.1) ∧
      item.get? "weightage" = some (.text task.2)) items sheet.tasks

/-- What is shown of tasks, numbered from the given number on. -/
def taskTokens : Nat → List (Text × Text) → List Token
  | _, [] => []
  | number, task :: tasks =>
    .paragraph (taskLine number (tidy task.1) (tidy task.2)) :: taskTokens (number + 1) tasks

/-- What is shown of the sections. -/
def sectionTokens (sheet : Sheet) : List Token :=
  [.heading 2 "Deadline", .paragraph (tidy sheet.deadline),
    .heading 2 "Number of Tasks", .paragraph (tidy sheet.taskCount),
    .heading 2 "Tasks"] ++ taskTokens 1 sheet.tasks ++
  [.heading 2 "Total Weightage Marks", .paragraph (tidy sheet.totalMarks),
    .heading 2 "Evaluation Criteria", .paragraph (tidy sheet.criteria)]

/-- What should be shown of the texts: the title on one line, and the sections. -/
def tokens (sheet : Sheet) : List Token :=
  .heading 1 (Outline.title sheet.title) :: sheet.sectionTokens

end Sheet

/-! ## (2) The title -/

theorem trim_space {content : Text} (trimmed : content.Trimmed) :
    Text.trim Line.isTrimmed (Sign.space :: content) = content := by
  have dropped {sign : Nat} (h : Sign.isBlank sign = false) : Line.isTrimmed sign = false := by
    refine Bool.eq_false_iff.mpr fun htrimmed => ?_
    rw [Line.isTrimmed, Bool.or_eq_true, Bool.and_eq_true, decide_eq_true_eq, decide_eq_true_eq,
      beq_iff_eq] at htrimmed
    rcases htrimmed with ⟨least, most⟩ | rfl
    · simp only [Sign.isBlank, Bool.or_eq_false_iff, Bool.and_eq_false_iff,
        decide_eq_false_iff_not] at h
      omega
    · cases h
  have hstart : Text.trim Line.isTrimmed (Sign.space :: content) =
      Text.trim Line.isTrimmed content := by
    rw [Text.trim, List.dropWhile_cons_of_pos rfl]
    rfl
  rw [hstart]
  exact Text.trim_eq_self (fun sign h => dropped (trimmed.first sign h))
    fun sign h => dropped (trimmed.last sign h)

namespace Legible

variable {text : Text} (legible : Legible text)

include legible

/-- A title on one line shows something, has inert signs and no line end. -/
theorem title_inert : (∀ sign ∈ title text, isInert sign = true) ∧ Sign.newline ∉ title text := by
  refine ⟨fun sign h => ?_, fun h => ?_⟩
  · rcases mem_title h with rfl | ⟨h, -⟩
    · decide
    · exact legible.inert sign h
  · rcases mem_title h with h | ⟨-, h⟩
    · cases h
    · cases h

theorem trimmed_title : title text ≠ [] ∧ (title text).Trimmed :=
  Outline.trimmed_title (Text.words_ne_nil legible.shown)

theorem isBlank_title : (title text).isBlank = false := isBlank_title_of_shown legible.shown

/-- The escaped title spells the title. -/
theorem spells_foldLine : Spells (foldLine text) (title text) := by
  obtain ⟨inert, absent⟩ := legible.title_inert
  have spells := spells_escapeLine legible.isBlank_title inert absent
  rwa [Text.strip_eq_self legible.trimmed_title.2] at spells

theorem escaped_foldLine : Escaped (title text) (foldLine text) := by
  have escaped := escaped_escapeLine (title text)
  rwa [Text.strip_eq_self legible.trimmed_title.2, ← foldLine_eq] at escaped

/-- No number sign begins the escaped title. -/
theorem exists_foldLine_eq : ∃ first rest, foldLine text = first :: rest ∧ first ≠ Sign.hash := by
  have inert := legible.title_inert.1
  have settled := settled_escapeLine legible.isBlank_title fun sign h => by
    rw [Text.strip_eq_self legible.trimmed_title.2] at h
    have hsign := inert sign (List.mem_of_mem_head? h)
    constructor
    · rintro rfl
      cases hsign
    · rintro rfl
      cases hsign
  obtain ⟨first, rest, hline, -, hmarkup⟩ := settled.begins
  refine ⟨first, rest, hline, ?_⟩
  rintro rfl
  cases hmarkup

omit legible in
/-- Spaces are the only white space of an escaped title. -/
theorem eq_space_of_mem_foldLine {sign : Nat} (h : sign ∈ foldLine text)
    (blank : Sign.isBlank sign = true) : sign = Sign.space := by
  rcases mem_escapeLine h with rfl | h
  · cases blank
  · rcases mem_title h with rfl | ⟨-, solid⟩
    · rfl
    · rw [solid] at blank
      cases blank

/-- The text of the title's heading is the escaped title without a closing run. -/
theorem source_headingPart : (headingPart 1 (foldLine text)).source =
    if hasClosingRun (title text) then ((foldLine text).trimEnd (· == Sign.hash)).stripEnd
    else foldLine text := by
  have trimmed := legible.spells_foldLine.trimmed
  obtain ⟨first, rest, hfold, hhash⟩ := legible.exists_foldLine_eq
  have hwithout := withoutClosing_eq hhash (hfold ▸ trimmed)
    (hfold ▸ fun sign h => eq_space_of_mem_foldLine h)
  rw [← hfold, legible.escaped_foldLine.hasClosingRun] at hwithout
  have hsource : (headingPart 1 (foldLine text)).source =
      Line.withoutClosing (Text.trim Line.isTrimmed (Sign.space :: foldLine text)) :=
    rfl
  rw [hsource, trim_space trimmed, hwithout]

/-- What is left without a closing run is too short to show the title. -/
theorem visible_withoutClosing_ne {labels : List Text}
    (closing : hasClosingRun (title text) = true) :
    Inline.visible labels ((foldLine text).trimEnd (· == Sign.hash)).stripEnd ≠ title text := by
  have spells := legible.spells_foldLine
  have escaped := legible.escaped_foldLine
  have hprefix : ((foldLine text).trimEnd (· == Sign.hash)).stripEnd <+: foldLine text :=
    (List.rdropWhile_prefix _ _).trans (List.rdropWhile_prefix _ _)
  have left : Text.Trimmed ((foldLine text).trimEnd (· == Sign.hash)).stripEnd :=
    ⟨fun sign h => spells.trimmed.first sign (Text.head?_trimEnd (Text.head?_trimEnd h)),
      fun sign h => Text.getLast?_trimEnd h⟩
  rw [visible_eq_unescape labels (spells.quiet.of_isInfix hprefix.isInfix) left]
  intro same
  -- escaping adds one sign at most, and the run that is gone has two at least
  have hunescape := length_unescape_le ((foldLine text).trimEnd (· == Sign.hash)).stripEnd
  have hescaped := escaped.length_le
  rw [← escaped.hasClosingRun] at closing
  have shorter := length_withoutClosing closing
  rw [same] at hunescape
  omega

/-- The heading of the title has no marks. -/
theorem isMarkup_source_headingPart :
    ∀ sign ∈ (headingPart 1 (foldLine text)).source, isMarkup sign = false := by
  rw [legible.source_headingPart]
  intro sign member
  refine legible.spells_foldLine.quiet.unmarked sign ?_
  split at member
  · exact (List.rdropWhile_prefix _ _).subset ((List.rdropWhile_prefix _ _).subset member)
  · exact member

/-- **The title is shown exactly if it has no closing run**, whatever labels are defined. -/
theorem visible_title_iff {labels : List Text} :
    Inline.visible labels (headingPart 1 (foldLine text)).source = title text ↔
      hasClosingRun (title text) = false := by
  rw [legible.source_headingPart]
  cases closing : hasClosingRun (title text) with
  | false =>
      simp only [Bool.false_eq_true, if_false, iff_true]
      exact legible.spells_foldLine.visible labels
  | true =>
      simp only [if_true, Bool.true_eq_false, iff_false]
      exact legible.visible_withoutClosing_ne closing

end Legible

/-! ## (3) The sections -/

/-- A part stays the part that it should be, whatever follows, and shows a token. -/
structure Shows (part : Part) (token : Token) : Prop where
  /-- None of its lines opens a block. -/
  stays : ∀ behind, part.Stays behind
  /-- It is read as the token. -/
  token : part.token = token
  /-- There are no marks but escapes. -/
  unmarked : ∀ sign ∈ part.source, isMarkup sign = false

/-- A source that stands in a paragraph shows what it spells. -/
theorem shows_textPart {source shown : Text} (spells : Spells source shown)
    (stands : Stands source) : Shows (textPart source) (.paragraph shown) := by
  have hsource := source_textPart source
  obtain ⟨first, more, h⟩ := Text.exists_splitAt_eq_cons Sign.newline source.unixLines
  have htoken : (textPart source).token =
      .paragraph (Inline.visible [] (textPart source).source) := by
    rw [textPart_eq h]
    rfl
  rw [Text.unixLines_of_not_mem stands.returns] at hsource
  rw [hsource, spells.visible] at htoken
  refine ⟨stays_textPart stands, htoken, ?_⟩
  rw [hsource]
  exact spells.quiet.unmarked

theorem exists_shows {parts : List Part} {tokens : List Token}
    (shows : List.Forall₂ Shows parts tokens) : ∀ part ∈ parts, ∃ token, Shows part token := by
  induction shows with
  | nil => exact fun part h => absurd h List.not_mem_nil
  | cons own others ih => exact List.forall_mem_cons.mpr ⟨⟨_, own⟩, ih⟩

namespace Legible

variable {text : Text} (legible : Legible text)

include legible

theorem isVoid_eq_false : (Json.text text).isVoid = false := isVoid_of_shown legible.shown

/-- A legible text is shown in its field. -/
theorem body_eq (placeholder : Text) :
    body (some (.text text)) placeholder = normalise text := by
  have shown := legible.folded_ne_nil
  rw [folded, Ne, Text.strip_eq_nil_iff] at shown
  have hdisplay : (Json.text text).display = text := rfl
  rw [body, legible.isVoid_eq_false, if_neg Bool.false_ne_true, hdisplay, if_neg shown]

theorem heading_eq (placeholder : Text) :
    heading (some (.text text)) placeholder = foldLine text :=
  heading_of_shown legible.shown placeholder

/-- Its paragraph shows its lines. -/
theorem shows_body (placeholder : Text) :
    Shows (textPart (body (some (.text text)) placeholder)) (.paragraph (tidy text)) := by
  rw [legible.body_eq]
  exact shows_textPart legible.spells_normalise
    (stands_normalise legible.guarded legible.folded_ne_nil)

end Legible

/-- The paragraphs of tasks show their texts. -/
theorem shows_taskBlocksFrom {items : List Json} {tasks : List (Text × Text)}
    (listed : List.Forall₂ (fun item task => item.get? "description" = some (.text task.1) ∧
      item.get? "weightage" = some (.text task.2)) items tasks)
    (legible : ∀ task ∈ tasks, Legible task.1 ∧ Legible task.2) (number : Nat) :
    List.Forall₂ Shows ((taskBlocksFrom .usual number items).map textPart)
      (Sheet.taskTokens number tasks) := by
  induction listed generalizing number with
  | nil => exact .nil
  | @cons item task items tasks own others ih =>
      obtain ⟨⟨hdescription, hweightage⟩, htasks⟩ := List.forall_mem_cons.mp legible
      rw [taskBlocksFrom, List.map_cons, Sheet.taskTokens]
      refine .cons ?_ (ih htasks (number + 1))
      rw [taskBlock, own.1, own.2, hdescription.body_eq, hweightage.body_eq]
      exact shows_textPart
        (spells_taskLine number hdescription.spells_normalise hweightage.spells_normalise)
        (stands_taskLine number
          (stands_normalise hdescription.guarded hdescription.folded_ne_nil)
          (stands_normalise hweightage.guarded hweightage.folded_ne_nil))

variable {fields : List (Text × Json)} {sheet : Sheet}

/-- The parts of a document: the title, and sections that show their texts. -/
theorem parts_of_sheet (of : sheet.Of fields) (legible : ∀ text ∈ sheet.texts, Legible text)
    (tasked : sheet.tasks ≠ []) :
    ∃ sections, parts .usual fields = headingPart 1 (foldLine sheet.title) :: sections ∧
      List.Forall₂ Shows sections sheet.sectionTokens := by
  rw [Sheet.texts, List.forall_mem_append] at legible
  simp only [List.forall_mem_cons] at legible
  obtain ⟨⟨title, deadline, count, marks, criteria, -⟩, tasks⟩ := legible
  obtain ⟨items, hitems, listed⟩ := of.tasks
  have htasks : ∀ task ∈ sheet.tasks, Legible task.1 ∧ Legible task.2 := fun task h =>
    ⟨tasks _ (List.mem_flatMap.mpr ⟨task, h, List.mem_cons_self⟩),
      tasks _ (List.mem_flatMap.mpr ⟨task, h, List.mem_cons_of_mem _ List.mem_cons_self⟩)⟩
  have blocks : taskBlocks .usual (some (.list items)) = taskBlocksFrom .usual 1 items := by
    cases items with
    | nil => exact absurd (List.forall₂_nil_left_iff.mp listed) tasked
    | cons item items => rfl
  have heading (content : Text) (h : (headingPart 2 content).token = .heading 2 content ∧
      ∀ sign ∈ (headingPart 2 content).source, isMarkup sign = false) :
      Shows (headingPart 2 content) (.heading 2 content) :=
    ⟨fun _ => trivial, h.1, h.2⟩
  refine ⟨(parts .usual fields).tail, ?_, ?_⟩
  · have hparts : parts .usual fields = headingPart 1 (Outline.heading
        (Json.fieldIn? "title" fields) Placeholders.usual.title) :: (parts .usual fields).tail :=
      rfl
    rwa [of.title, title.heading_eq] at hparts
  · have hcount (tasks : Option Json) : shownCount (Json.fieldIn? "numberOfTasks" fields) tasks =
        some (.text sheet.taskCount) := by
      rw [shownCount, of.taskCount, Option.getD_some, count.isVoid_eq_false]
      rfl
    simp only [parts, hcount, of.deadline, of.totalMarks, of.criteria, hitems, blocks]
    refine .cons (heading _ (by decide +kernel)) (.cons (deadline.shows_body _)
      (.cons (heading _ (by decide +kernel)) (.cons (count.shows_body _)
        (.cons (heading _ (by decide +kernel)) ?_))))
    refine List.rel_append (shows_taskBlocksFrom listed htasks 1) ?_
    exact .cons (heading _ (by decide +kernel)) (.cons (marks.shows_body _)
      (.cons (heading _ (by decide +kernel)) (.cons (criteria.shows_body _) .nil)))

/-! ## (4) The document -/

/-- **Legible texts are shown as they are written.** The document of an object with legible texts in
its fields and at least one task is read, and it has, apart from space, exactly the tokens of these
texts: the title on one line, and the five sections with the text of each field, one paragraph for
each task. This holds exactly if the words of the title do not end with number signs of their
own. -/
theorem ofMarkdown_renderFields_iff (of : sheet.Of fields)
    (legible : ∀ text ∈ sheet.texts, Legible text) (tasked : sheet.tasks ≠ []) :
    ∃ tokens, Token.read (renderFields .usual fields) = .ok tokens ∧
      (tokens.filter (! ·.isSpace) = sheet.tokens ↔
        hasClosingRun (title sheet.title) = false) := by
  have legibleTitle := legible sheet.title List.mem_cons_self
  obtain ⟨sections, hparts, shows⟩ := parts_of_sheet of legible tasked
  have stay : ∀ part ∈ parts .usual fields, ∀ behind, part.Stays behind := by
    rw [hparts]
    refine List.forall_mem_cons.mpr ⟨fun _ => trivial, fun part member => ?_⟩
    obtain ⟨_, own⟩ := exists_shows shows part member
    exact own.stays
  have unmarked : ∀ part ∈ parts .usual fields, ∀ sign ∈ part.source, isMarkup sign = false := by
    rw [hparts]
    refine List.forall_mem_cons.mpr
      ⟨legibleTitle.isMarkup_source_headingPart, fun part member => ?_⟩
    obtain ⟨_, own⟩ := exists_shows shows part member
    exact own.unmarked
  have blocks := (ofText_renderFields_iff presentable_usual fields).mpr
    (Part.allStay_of_forall stay)
  have shown := renderFields_ne_nil presentable_usual fields
  have hsections : sections.map Part.token = sheet.sectionTokens := by
    rw [← List.forall₂_eq_eq_eq, List.forall₂_map_left_iff]
    exact shows.imp fun part token h => h.token
  have htitle : (headingPart 1 (foldLine sheet.title)).token =
      .heading 1 (Inline.visible [] (headingPart 1 (foldLine sheet.title)).source) :=
    rfl
  refine ⟨_, Part.read_eq_tokensOf shown blocks unmarked, ?_⟩
  rw [Part.filter_tokensOf, hparts, List.map_cons, hsections, htitle, Sheet.tokens,
    List.cons.injEq, Token.heading.injEq]
  simp only [true_and, and_true]
  exact legibleTitle.visible_title_iff

/-- Marks at the start of lines, blank lines and white space around a line are no exception. -/
theorem ofMarkdown_renderFields_marks :
    let sheet : Sheet := ⟨"  # Graphs\n\nand trees #1 ", "- today\n \n# or\n1. later", "2)",
      "= 10", "> all\n+ of them", [("~ draw\n- label", "5"), ("2. explain", "a half")]⟩
    let fields : List (Text × Json) := [("title", .text sheet.title),
      ("deadline", .text sheet.deadline), ("numberOfTasks", .text sheet.taskCount),
      ("tasks", .list [.object [("description", .text "~ draw\n- label"), ("weightage", .text "5")],
        .object [("weightage", .text "a half"), ("description", .text "2. explain")]]),
      ("totalMarksWeightage", .text sheet.totalMarks),
      ("evaluationCriteria", .text sheet.criteria)]
    ∃ tokens, Token.read (renderFields .usual fields) = .ok tokens ∧
      tokens.filter (! ·.isSpace) = sheet.tokens := by
  intro sheet fields
  have tasks : ∃ items, Json.fieldIn? "tasks" fields = some (.list items) ∧
      List.Forall₂ (fun item task => item.get? "description" = some (.text task.1) ∧
        item.get? "weightage" = some (.text task.2)) items sheet.tasks :=
    ⟨_, rfl, .cons ⟨rfl, rfl⟩ (.cons ⟨rfl, rfl⟩ .nil)⟩
  have of : sheet.Of fields := ⟨rfl, rfl, rfl, rfl, rfl, tasks⟩
  obtain ⟨tokens, read, shown⟩ :=
    ofMarkdown_renderFields_iff of (by decide) (List.cons_ne_nil _ _)
  exact ⟨tokens, read, shown.mpr (by decide)⟩

/-- A title that does not end with a space and number signs loses its number sign if other white
space stands before it: the white space has become a space. -/
theorem not_ofMarkdown_renderFields_tab :
    ¬ ∀ (fields : List (Text × Json)) (sheet : Sheet), sheet.Of fields →
      (∀ text ∈ sheet.texts, Legible text) → sheet.tasks ≠ [] →
      hasClosingRun sheet.title = false →
      ∃ tokens, Token.read (renderFields .usual fields) = .ok tokens ∧
        tokens.filter (! ·.isSpace) = sheet.tokens := by
  intro shown
  let sheet : Sheet := ⟨"a\t#", "b", "1", "2", "c", [("d", "2")]⟩
  let fields : List (Text × Json) := [("title", .text "a\t#"), ("deadline", .text "b"),
    ("numberOfTasks", .text "1"), ("totalMarksWeightage", .text "2"),
    ("evaluationCriteria", .text "c"),
    ("tasks", .list [.object [("description", .text "d"), ("weightage", .text "2")]])]
  have of : sheet.Of fields := ⟨rfl, rfl, rfl, rfl, rfl, _, rfl, .cons ⟨rfl, rfl⟩ .nil⟩
  obtain ⟨tokens, read, same⟩ :=
    shown fields sheet of (by decide) (List.cons_ne_nil _ _) (by decide)
  rw [(Token.read_eq_ok_iff.mp read).2] at same
  revert same
  decide +kernel

end Coursework.Outline
