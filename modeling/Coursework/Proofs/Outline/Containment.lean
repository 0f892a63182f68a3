import Coursework.Proofs.Document.Parts
import Coursework.Proofs.Document.Totality
import Coursework.Proofs.Outline.Encodable
import Coursework.Proofs.Outline.Standing

/-! # Values stay in their blocks

A document is compiled to six headings and one text for each value, none of which opens, ends or
leaves a block, exactly if no line of a value opens a block of markdown. Normalising does not ensure
this: three underscores are a thematic break, a label in brackets and a colon begin a definition,
and a carriage return of its own ends a line that was not seen as one.

* **`Compilation.Sectioned`** is the shape of the operations, **`Outline.Contained`** what should be
  read and compiled of the document of a value.
* **`Outline.contained_iff`** is the main statement, **`Outline.contained_of_guarded`** says where
  its condition is met. -/

namespace Coursework

open Markdown Page

/-! ## (1) The shape -/

/-- A compiled document of six headings, the first one of depth 1, and of as many texts as given,
without bullets, fonts and diagnostics. -/
structure Compilation.Sectioned (texts : Nat) (compilation : Compilation) : Prop where
  /-- The headings. -/
  headings : compilation.operations.filterMap Operation.namedStyle? =
    Token.headingStyle 1 :: List.replicate 5 (Token.headingStyle 2)
  /-- No range gets bullets or a font. -/
  undecorated : ∀ operation ∈ compilation.operations, operation.isDecorated = false
  /-- The texts. -/
  texts : (Operation.bodies compilation.operations).length = texts
  /-- Nothing was noticed. -/
  quiet : compilation.diagnostics = []

namespace Outline

/-- The fields of a value; one that is no object has none. -/
def fieldsOf (value : Json) : List (Text × Json) := value.toFields?.getD []

/-- The number of texts in the document of a value: those of four fields, and of every task. -/
def textCount (value : Json) : Nat :=
  4 + (taskBlocks .usual (Json.fieldIn? "tasks" (fieldsOf value))).length

/-- Every text of a value stays in a block of its own: the document is read as its parts, and it is
compiled to six headings and these texts. -/
structure Contained (value : Json) : Prop where
  /-- The document is read as its parts, none of which is a definition. -/
  blocks : Block.ofText (renderJson .usual value) =
    (Part.blocksOf (parts .usual (fieldsOf value)), [])
  /-- It is compiled to headings and texts. -/
  compiled : ∃ compilation, Compilation.ofMarkdown (renderJson .usual value) = .ok compilation ∧
    compilation.Sectioned (textCount value)

/-! ## (2) Parts without surrogates -/

/-- The parts of a document have no surrogates if its blocks have none. -/
theorem hasSurrogate_source {fields : List (Text × Json)}
    (plain : ∀ value ∈ shownValues fields, isPlain value = true) {part : Part}
    (member : part ∈ parts .usual fields) : part.source.hasSurrogate = false := by
  rcases mem_parts member with ⟨depth, content, rfl, -, -, h⟩ | ⟨block, h, rfl⟩
  · have hblock := hasSurrogate_blocks plain h
    rw [Text.hasSurrogate_append, Bool.or_eq_false_iff] at hblock
    refine Text.hasSurrogate_of_subset ?_ hblock.2
    exact List.Subset.trans (Line.withoutClosing_subset _) (Text.trim_isInfix _ _).subset
  · have hblock := hasSurrogate_blocks plain h
    rw [source_textPart]
    refine Text.hasSurrogate_eq_false_iff.mpr fun sign hsign => ?_
    rcases Text.mem_unixLines hsign with hsign | rfl
    · exact Text.hasSurrogate_eq_false_iff.mp hblock sign hsign
    · decide

/-! ## (3) The operations -/

theorem isUndecorated_entry (part : Part) : part.entry.isUndecorated = true := by
  cases part <;> rfl

theorem units_entry (part : Part) : 1 ≤ part.entry.content.units := by
  have closed : part.entry.content = Inline.visible [] part.source ++ [Sign.newline] := rfl
  rw [closed, Text.units_append, Text.units_cons, Sign.units_newline]
  omega

/-- The headings of a document. -/
theorem namedStyles_parts (placeholders : Placeholders) (fields : List (Text × Json)) :
    ((parts placeholders fields).map Part.entry).filterMap Entry.namedStyle? =
      Token.headingStyle 1 :: List.replicate 5 (Token.headingStyle 2) := by
  have heading (depth : Nat) (content : Text) :
      (headingPart depth content).entry.namedStyle? = some (Token.headingStyle depth) :=
    rfl
  have text (content : Text) : (textPart content).entry.namedStyle? = none := by
    obtain ⟨first, more, h⟩ := Text.exists_splitAt_eq_cons Sign.newline content.unixLines
    rw [textPart_eq h]
    rfl
  simp [parts, heading, text, List.replicate]

/-- The texts of a document. -/
theorem countP_parts (placeholders : Placeholders) (fields : List (Text × Json)) :
    ((parts placeholders fields).map Part.entry).countP (·.style?.isNone) =
      4 + (taskBlocks placeholders (Json.fieldIn? "tasks" fields)).length := by
  have heading (depth : Nat) (content : Text) :
      (headingPart depth content).entry.style?.isNone = false :=
    rfl
  have text (content : Text) : (textPart content).entry.style?.isNone = true := by
    obtain ⟨first, more, h⟩ := Text.exists_splitAt_eq_cons Sign.newline content.unixLines
    rw [textPart_eq h]
    rfl
  have texts (contents : List Text) :
      (contents.map (Part.entry ∘ textPart)).countP (·.style?.isNone) = contents.length := by
    rw [List.countP_map]
    exact List.countP_eq_length.mpr fun content _ => text content
  simp [parts, heading, text, texts]
  omega

/-- A document that is read as its parts is compiled to headings and texts. -/
theorem sectioned_of_blocks {value : Json}
    (plain : ∀ shown ∈ shownValues (fieldsOf value), isPlain shown = true)
    (blocks : Block.ofText (renderJson .usual value) =
      (Part.blocksOf (parts .usual (fieldsOf value)), [])) :
    ∃ compilation, Compilation.ofMarkdown (renderJson .usual value) = .ok compilation ∧
      compilation.Sectioned (textCount value) := by
  have addressed : Token.Addressed (renderJson .usual value) :=
    Token.addressed_of_plain (hasSurrogate_renderFields plain)
  have shown : renderJson .usual value ≠ [] := renderFields_ne_nil presentable_usual _
  have tokens := Part.ofMarkdown_eq_tokensOf shown blocks
  have entries := Part.flatMap_entries_tokensOf (parts .usual (fieldsOf value))
  have undecorated : ∀ entry ∈ (parts .usual (fieldsOf value)).map Part.entry,
      entry.isUndecorated = true :=
    List.forall_mem_map.mpr fun part _ => isUndecorated_entry part
  have filled : ∀ entry ∈ (parts .usual (fieldsOf value)).map Part.entry,
      1 ≤ entry.content.units :=
    List.forall_mem_map.mpr fun part _ => units_entry part
  have compiled := Compilation.ofTokens_recognised (fun token h => Part.unrecognised?_tokensOf h)
    (fun token h => Part.encodable_tokensOf (fun part hpart => hasSurrogate_source plain hpart) h)
    (by rw [entries]; exact List.cons_ne_nil _ _) (renderJson .usual value)
  rw [Compilation.ofMarkdown_of_addressed addressed, tokens, compiled, entries]
  refine ⟨_, rfl, ?_, ?_, ?_, rfl⟩
  · rw [namedStyles_place, namedStyles_parts]
  · exact fun operation h => isDecorated_place undecorated h
  · rw [length_bodies_place undecorated filled, countP_parts]
    rfl

/-! ## (4) The condition -/

/-- **A value stays in its blocks exactly if none of its lines opens one.** For a value whose texts
have no surrogates, the document is read as six headings with one paragraph for each text, and
compiled to these headings and texts alone, exactly if no line of a text opens a block. The document
of an assignment is that of its value. The values are meant to be `Json.Bounded`, like all that are
read. -/
theorem contained_iff (value : Json)
    (plain : ∀ shown ∈ shownValues (fieldsOf value), isPlain shown = true) :
    Contained value ↔ Part.AllStay (parts .usual (fieldsOf value)) := by
  have read := ofText_renderFields_iff presentable_usual (fieldsOf value)
  constructor
  · intro contained
    exact read.mp contained.blocks
  · intro stays
    have blocks := read.mpr stays
    exact ⟨blocks, sectioned_of_blocks plain blocks⟩

/-- Marks at the start of lines and blank lines do not leave a deadline. -/
theorem contained_deadline :
    let value := Json.object [("deadline", .text "- today\n\n# or\n1. later"),
      ("tasks", .list [.null])]
    (∀ shown ∈ shownValues (fieldsOf value), isPlain shown = true) ∧
      Part.AllStay (parts .usual (fieldsOf value)) ∧ Contained value := by
  intro value
  have plain : ∀ shown ∈ shownValues (fieldsOf value), isPlain shown = true := by decide
  have stays : Part.AllStay (parts .usual (fieldsOf value)) := by decide +kernel
  exact ⟨plain, stays, (contained_iff value plain).mpr stays⟩

/-- Three underscores do: they are a thematic break, and the deadline is not shown at all. -/
theorem not_contained_underscores :
    ¬ ∀ value : Json, (∀ shown ∈ shownValues (fieldsOf value), isPlain shown = true) →
      Contained value := by
  intro contained
  have value := (contained (.object [("deadline", .text "___")]) (by decide)).blocks
  revert value
  decide +kernel

/-! ## (5) Guarded values -/

/-- A value is guarded if the text that it is shown as is. -/
def IsGuarded (value : Option Json) : Prop := ∀ shown, value = some shown → Guarded shown.display

/-- The number of tasks that is shown is guarded if the field is. -/
theorem isGuarded_shownCount {count tasks : Option Json} (guarded : IsGuarded count) :
    IsGuarded (shownCount count tasks) := by
  rw [shownCount]
  split
  · split
    · exact guarded
    · rintro shown h
      obtain rfl := Option.some.inj h
      refine guarded_of_forall fun sign hsign => ?_
      have hdigit := Text.isDigit_of_mem_ofNat hsign
      refine ⟨?_, ?_, ?_⟩ <;> rintro rfl <;> cases hdigit
  · exact guarded

theorem stands_taskBlocksFrom {placeholders : Placeholders}
    (hdescription : Stands placeholders.description) (hweightage : Stands placeholders.weightage)
    {tasks : List Json} (guarded : ∀ task ∈ tasks, IsGuarded (task.get? "description") ∧
      IsGuarded (task.get? "weightage")) {first : Nat} :
    ∀ block ∈ taskBlocksFrom placeholders first tasks, Stands block := by
  induction tasks generalizing first with
  | nil => exact fun block h => absurd h List.not_mem_nil
  | cons task tasks ih =>
      obtain ⟨own, others⟩ := List.forall_mem_cons.mp guarded
      refine List.forall_mem_cons.mpr ⟨?_, ih others⟩
      exact stands_taskLine first (stands_body hdescription own.1) (stands_body hweightage own.2)

theorem isGuarded_of_forall {value : Option Json}
    (absent : ∀ sign ∈ (value.getD .null).display, sign ≠ Sign.carriageReturn ∧
      sign ≠ Sign.underscore ∧ sign ≠ Sign.leftBracket) : IsGuarded value := by
  rintro shown rfl
  exact guarded_of_forall absent

/-- The usual placeholders stand in paragraphs. -/
theorem stands_usual : ∀ text ∈ [Placeholders.usual.deadline, Placeholders.usual.taskCount,
    Placeholders.usual.description, Placeholders.usual.weightage, Placeholders.usual.totalMarks,
    Placeholders.usual.criteria], Stands text := by
  have normal : ∀ text ∈ [Placeholders.usual.deadline, Placeholders.usual.taskCount,
      Placeholders.usual.description, Placeholders.usual.weightage, Placeholders.usual.totalMarks,
      Placeholders.usual.criteria], normalise text = text ∧ folded text ≠ [] ∧ ∀ sign ∈ text,
        sign ≠ Sign.carriageReturn ∧ sign ≠ Sign.underscore ∧ sign ≠ Sign.leftBracket := by
    decide
  intro text h
  obtain ⟨same, shown, absent⟩ := normal text h
  rw [← same]
  exact stands_normalise (guarded_of_forall absent) shown

theorem stands_taskBlocks {tasks : Option Json} (guarded : ∀ task ∈ listed tasks,
    IsGuarded (task.get? "description") ∧ IsGuarded (task.get? "weightage")) :
    ∀ block ∈ taskBlocks .usual tasks, Stands block := by
  have usual : ∀ task ∈ Placeholders.usual.tasks.map Task.toJson,
      IsGuarded (task.get? "description") ∧ IsGuarded (task.get? "weightage") := by
    have absent : ∀ task ∈ Placeholders.usual.tasks.map Task.toJson,
        ∀ value ∈ [task.get? "description", task.get? "weightage"],
          ∀ sign ∈ (value.getD .null).display, sign ≠ Sign.carriageReturn ∧
            sign ≠ Sign.underscore ∧ sign ≠ Sign.leftBracket := by
      decide
    intro task h
    exact ⟨isGuarded_of_forall (absent task h _ List.mem_cons_self),
      isGuarded_of_forall (absent task h _ (List.mem_cons_of_mem _ List.mem_cons_self))⟩
  have hplaceholders := stands_usual
  simp only [List.forall_mem_cons] at hplaceholders
  obtain ⟨-, -, hdescription, hweightage, -⟩ := hplaceholders
  rw [taskBlocks]
  split
  · exact stands_taskBlocksFrom hdescription hweightage usual
  · exact stands_taskBlocksFrom hdescription hweightage guarded

/-- **Guarded values stay in their blocks.** -/
theorem contained_of_guarded {value : Json}
    (plain : ∀ shown ∈ shownValues (fieldsOf value), isPlain shown = true)
    (guarded : ∀ shown ∈ shownValues (fieldsOf value), IsGuarded shown) : Contained value := by
  rw [shownValues, List.forall_mem_append] at guarded
  obtain ⟨own, tasks⟩ := guarded
  simp only [List.forall_mem_cons] at own
  obtain ⟨-, deadline, count, marks, criteria, -⟩ := own
  have blocks := stands_taskBlocks fun task h =>
    ⟨tasks (task.get? "description") (List.mem_flatMap.mpr ⟨task, h, List.mem_cons_self⟩),
      tasks (task.get? "weightage") (List.mem_flatMap.mpr
        ⟨task, h, List.mem_cons_of_mem _ List.mem_cons_self⟩)⟩
  have usual := stands_usual
  simp only [List.forall_mem_cons] at usual
  obtain ⟨hdeadline, hcount, -, -, hmarks, hcriteria, -⟩ := usual
  have stays : Part.AllStay (parts .usual (fieldsOf value)) := by
    refine Part.allStay_of_forall fun part member => ?_
    simp only [parts, List.mem_append, List.mem_cons, List.not_mem_nil, or_false,
      List.mem_map] at member
    rcases member with
      ((rfl | rfl | rfl | rfl | rfl | rfl) | ⟨block, h, rfl⟩) | (rfl | rfl | rfl | rfl)
    · exact fun _ => trivial
    · exact fun _ => trivial
    · exact stays_textPart (stands_body hdeadline deadline)
    · exact fun _ => trivial
    · exact stays_textPart (stands_body hcount (isGuarded_shownCount count))
    · exact fun _ => trivial
    · exact stays_textPart (blocks block h)
    · exact fun _ => trivial
    · exact stays_textPart (stands_body hmarks marks)
    · exact fun _ => trivial
    · exact stays_textPart (stands_body hcriteria criteria)
  have read := (ofText_renderFields_iff presentable_usual (fieldsOf value)).mpr stays
  exact ⟨read, sectioned_of_blocks plain read⟩

end Outline

end Coursework
