import Coursework.Proofs.Markdown.Extras

/-! # Lines that open a block

A line either continues the text before it or opens a block. Which one depends on the line, on
whether a paragraph stands before it, and for link definitions on the lines that follow.

* **`opensBlock`** is the condition.
* **`Opened`** lists what a line that opens a block can do to a draft.
* **`readBlock_cases`** says that reading a block does the one or the other. -/

namespace Coursework.Markdown

/-! ## (1) The condition -/

/-- What separates words within a line is white space. -/
theorem isGap_of_not_isBlank {sign : Nat} (solid : Sign.isBlank sign = false) :
    Line.isGap sign = false := by
  refine Bool.eq_false_iff.mpr fun hgap => ?_
  simp only [Line.isGap, Bool.or_eq_true, beq_iff_eq] at hgap
  rcases hgap with ((rfl | rfl) | rfl) | rfl <;> cases solid

theorem isBlank_cons_of_solid {sign : Nat} (solid : Sign.isBlank sign = false) (rest : Line) :
    Line.isBlank (sign :: rest) = false := by
  rw [Line.isBlank, List.all_cons, isGap_of_not_isBlank solid, Bool.false_and]

/-- Whether a line with the mark of a list opens one; within a paragraph an empty item and a
number other than one do not. -/
def opensList (within : Bool) (mark : Line.ListMark) : Bool :=
  !(within && (Text.isBlank mark.rest || (mark.isOrdered && mark.number != 1)))

/-- Whether a line opens HTML; within a paragraph a tag that is none of a block does not. -/
def opensHtml (within : Bool) (line : Line) : Bool :=
  (Html.opening? line).any fun opening =>
    match opening.extent with
    | .through _ _ => true
    | .toBlankLine => true
    | .unlessParagraph => !within && opening.holds

/-- Whether a link definition begins with the first of some lines. -/
def beginsDefinition (lines : List Line) : Bool :=
  lines.head?.any Link.opensDefinition &&
    (Link.definition? (lines.flatMap (· ++ [Sign.newline]))).isSome

/-- Whether a line without a fence, indentation, number signs or underline opens a block. -/
def opensUnmarked (within : Bool) (line : Line) (lines : List Line) : Bool :=
  line.isThematicBreak 3 || (Line.quoted? 3 line).isSome ||
    match Line.listMark? 3 line with
    | some mark => opensList within mark
    | none =>
      line.isBlank || (!within && beginsDefinition (line :: lines)) || opensHtml within line

/-- Whether a line opens a block, within a paragraph or not, instead of being text. -/
def opensBlock (within : Bool) (line : Line) (lines : List Line) : Bool :=
  match Line.fence? 3 line with
  | some fence => fence.opens
  | none =>
    if line.isIndented then !within
    else
      (Line.heading? 3 line).isSome || (within && (Line.underline? line).isSome) ||
        opensUnmarked within line lines

/-- What a line that opens a block makes of a draft. -/
inductive Opened (draft : Draft) (lines : List Line) (result : Draft × List Line) : Prop
  /-- A heading. -/
  | heading (depth : Nat) (content : Text)
    (same : result = (draft.push (.heading depth content), lines))
  /-- A heading of the paragraph before it. -/
  | underline (depth : Nat) (within : draft.inParagraph = true)
    (same : result = (draft.promote depth, lines))
  /-- Blank lines. -/
  | blank (same : result = readBlank lines draft)
  /-- Something that stays to be seen. -/
  | extra (more : draft.extras < result.1.extras)

/-! ## (2) Parts of the step -/

/-- HTML that opens on a line is an extra. -/
theorem readHtml_of_opensHtml {line : Line} (lines : List Line) {draft : Draft}
    (opens : opensHtml draft.inParagraph line = true) :
    ∃ result, readHtml line lines draft = some result ∧ draft.extras < result.1.extras := by
  have extra : draft.extras < (draft.push .html).extras := by
    rw [draft.extras_push_other rfl]
    exact Nat.lt_succ_self _
  rw [opensHtml, Option.any_eq_true] at opens
  obtain ⟨⟨extent, holds⟩, hopening, hextent⟩ := opens
  rw [readHtml, hopening]
  cases extent with
  | through ending rest => exact ⟨_, rfl, extra⟩
  | toBlankLine => exact ⟨_, rfl, extra⟩
  | unlessParagraph =>
      rw [Bool.and_eq_true, Bool.not_eq_true'] at hextent
      refine ⟨(draft.push .html, fromBlank lines), ?_, extra⟩
      simp only at hextent
      simp only [hextent.1, hextent.2, if_true, Bool.false_eq_true, if_false]

/-- A line that opens no HTML is text, as far as HTML goes. -/
theorem readHtml_of_not_opensHtml {line : Line} (lines : List Line) {draft : Draft}
    (opens : opensHtml draft.inParagraph line = false) :
    (readHtml line lines draft).getD (draft.addLine line, lines) = (draft.addLine line, lines) := by
  rw [readHtml]
  cases hopening : Html.opening? line with
  | none => rfl
  | some opening =>
      obtain ⟨extent, holds⟩ := opening
      rw [opensHtml, hopening, Option.any_some] at opens
      cases extent with
      | through ending rest => cases opens
      | toBlankLine => cases opens
      | unlessParagraph =>
          cases hwithin : draft.inParagraph with
          | true => simp only [if_true, Option.getD_some]
          | false =>
              rw [hwithin, Bool.not_false, Bool.true_and] at opens
              simp only at opens
              simp only [opens, Bool.false_eq_true, if_false, Option.getD_none]

/-- A link definition is read exactly if one begins outside a paragraph. -/
theorem isSome_readDefinition (lines : List Line) (draft : Draft) :
    (readDefinition lines draft).isSome = (!draft.inParagraph && beginsDefinition lines) := by
  rw [readDefinition, beginsDefinition]
  cases draft.inParagraph with
  | true => rfl
  | false =>
      cases lines.head?.any Link.opensDefinition with
      | true => simp
      | false => rfl

/-- A line with the mark of a list is text or opens a list, which is an extra. -/
theorem readList_cases (nesting : Nesting) (steps : Nat) (line : Line) (mark : Line.ListMark)
    (lines : List Line) (draft : Draft) :
    (opensList draft.inParagraph mark = false ∧
        readList nesting (steps + 1) line mark lines draft = (draft.addLine line, lines)) ∨
      (opensList draft.inParagraph mark = true ∧
        Opened draft lines (readList nesting (steps + 1) line mark lines draft)) := by
  have hopens : opensList draft.inParagraph mark = !draft.continuedBy mark := rfl
  rw [hopens]
  cases continues : draft.continuedBy mark with
  | true => exact .inl ⟨rfl, readList_of_continues nesting steps line lines continues⟩
  | false =>
      refine .inr ⟨rfl, .extra (extras_lt_readList nesting steps line lines ?_)⟩
      rw [continues]
      exact Bool.false_ne_true

/-- A line without any marks is text unless it is blank or opens a link definition or HTML. -/
theorem unlisted_cases (line : Line) (lines : List Line) (draft : Draft) :
    let opens := line.isBlank || (!draft.inParagraph && beginsDefinition (line :: lines)) ||
      opensHtml draft.inParagraph line
    let result := if line.isBlank then readBlank lines draft
      else ((readDefinition (line :: lines) draft).or (readHtml line lines draft)).getD
        (draft.addLine line, lines)
    (opens = false ∧ result = (draft.addLine line, lines)) ∨
      (opens = true ∧ Opened draft lines result) := by
  intro opens result
  simp only [opens, result]
  cases line.isBlank with
  | true =>
      right
      simp only [if_true, Bool.true_or, true_and]
      exact .blank rfl
  | false =>
      simp only [Bool.false_eq_true, if_false, Bool.false_or]
      -- definitions come before HTML
      have hdefinition := isSome_readDefinition (line :: lines) draft
      rw [← hdefinition]
      cases hread : readDefinition (line :: lines) draft with
      | some found =>
          right
          simp only [Option.isSome_some, Bool.true_or, Option.some_or, Option.getD_some, true_and]
          exact .extra (by rw [extras_readDefinition hread]; exact Nat.lt_succ_self _)
      | none =>
          simp only [Option.isSome_none, Bool.false_or, Option.none_or]
          cases hopens : opensHtml draft.inParagraph line with
          | true =>
              right
              obtain ⟨found, hfound, more⟩ := readHtml_of_opensHtml lines hopens
              simp only [hfound, Option.getD_some, true_and]
              exact .extra more
          | false =>
              left
              exact ⟨rfl, readHtml_of_not_opensHtml lines hopens⟩

/-! ## (3) The step -/

/-- Reading goes on with containers, blank lines and HTML on a line without the marks that are
sought first. -/
theorem readBlock_of_unmarked (nesting : Nesting) {line : Line} (lines : List Line) {draft : Draft}
    (fence : Line.fence? 3 line = none) (indented : line.isIndented = false)
    (heading : Line.heading? 3 line = none)
    (underline : (draft.inParagraph && (Line.underline? line).isSome) = false) :
    readBlock nesting {} line lines draft =
      if line.isThematicBreak 3 then (draft.push .thematicBreak, lines)
      else match Line.quoted? 3 line with
        | some first => readQuote nesting (stepsFor lines) first lines draft
        | none =>
          match Line.listMark? 3 line with
          | some mark => readList nesting (stepsFor lines) line mark lines draft
          | none =>
            if line.isBlank then readBlank lines draft
            else ((readDefinition (line :: lines) draft).or (readHtml line lines draft)).getD
              (draft.addLine line, lines) := by
  simp only [readBlock, fence, indented, heading, Bool.false_eq_true, if_false, if_true,
    Bool.true_or]
  -- an underline that is not one of a paragraph is no underline
  cases hunderline : Line.underline? line with
  | none => rfl
  | some depth =>
      rw [hunderline, Option.isSome_some, Bool.and_true] at underline
      generalize draft.inParagraph = within at underline ⊢
      subst underline
      rfl

/-- A line without such marks is text or opens a block. -/
theorem unmarked_cases (nesting : Nesting) (line : Line) (lines : List Line) (draft : Draft) :
    let result := if line.isThematicBreak 3 then (draft.push .thematicBreak, lines)
      else match Line.quoted? 3 line with
        | some first => readQuote nesting (stepsFor lines) first lines draft
        | none =>
          match Line.listMark? 3 line with
          | some mark => readList nesting (stepsFor lines) line mark lines draft
          | none =>
            if line.isBlank then readBlank lines draft
            else ((readDefinition (line :: lines) draft).or (readHtml line lines draft)).getD
              (draft.addLine line, lines)
    (opensUnmarked draft.inParagraph line lines = false ∧ result = (draft.addLine line, lines)) ∨
      (opensUnmarked draft.inParagraph line lines = true ∧ Opened draft lines result) := by
  intro result
  simp only [opensUnmarked, result]
  cases line.isThematicBreak 3 with
  | true =>
      right
      simp only [if_true, Bool.true_or, true_and]
      exact .extra (by rw [draft.extras_push_other rfl]; exact Nat.lt_succ_self _)
  | false =>
      simp only [Bool.false_eq_true, if_false, Bool.false_or]
      cases Line.quoted? 3 line with
      | some first =>
          right
          simp only [Option.isSome_some, Bool.true_or, true_and]
          exact .extra (extras_lt_readQuote nesting _ first lines draft)
      | none =>
          simp only [Option.isSome_none, Bool.false_or]
          cases Line.listMark? 3 line with
          | some mark => exact readList_cases nesting (4 * lines.length + 7) line mark lines draft
          | none => exact unlisted_cases line lines draft

/-- A line is text or opens a block. -/
theorem readBlock_cases (nesting : Nesting) (line : Line) (lines : List Line) (draft : Draft) :
    (opensBlock draft.inParagraph line lines = false ∧
        readBlock nesting {} line lines draft = (draft.addLine line, lines)) ∨
      (opensBlock draft.inParagraph line lines = true ∧
        Opened draft lines (readBlock nesting {} line lines draft)) := by
  rw [opensBlock]
  cases hfence : Line.fence? 3 line with
  -- an opening fence begins code
  | some fence =>
      rw [readBlock, hfence]
      cases hopens : fence.opens with
      | false =>
          left
          simp only [hopens, Bool.false_eq_true, if_false, and_self]
      | true =>
          right
          simp only [hopens, if_true, true_and]
          exact .extra (by rw [extras_readFence]; exact Nat.lt_succ_self _)
  | none =>
      simp only
      cases hindented : line.isIndented with
      -- an indented line is code outside paragraphs only
      | true =>
          rw [readBlock, hfence, hindented]
          cases hwithin : draft.inParagraph with
          | true =>
              left
              simp only [if_true, Bool.not_true, and_self]
          | false =>
              right
              simp only [if_true, Bool.not_false, Bool.false_eq_true, if_false, true_and]
              split
              · exact .blank rfl
              · exact .extra (by rw [extras_readCode]; exact Nat.lt_succ_self _)
      | false =>
          cases hheading : Line.heading? 3 line with
          -- number signs make a heading
          | some found =>
              right
              obtain ⟨depth, content⟩ := found
              simp only [readBlock, hfence, hindented, hheading, Bool.false_eq_true, if_false,
                Option.isSome_some, Bool.true_or, true_and]
              exact .heading depth content rfl
          | none =>
              cases hunderline : draft.inParagraph && (Line.underline? line).isSome with
              -- an underline makes a heading of the paragraph before it
              | true =>
                  right
                  obtain ⟨hwithin, hsome⟩ := Bool.and_eq_true_iff.mp hunderline
                  obtain ⟨depth, hdepth⟩ := Option.isSome_iff_exists.mp hsome
                  simp only [readBlock, hfence, hindented, hheading, hdepth, hwithin,
                    Bool.false_eq_true, if_false, Bool.or_true, Bool.true_or, true_and]
                  exact .underline depth hwithin rfl
              | false =>
                  rw [readBlock_of_unmarked nesting lines hfence hindented hheading hunderline]
                  simp only [Option.isSome_none, Bool.false_or, Bool.false_eq_true, if_false]
                  exact unmarked_cases nesting line lines draft

end Coursework.Markdown
