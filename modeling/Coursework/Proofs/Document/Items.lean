import Coursework.Proofs.Document.Literal
import Coursework.Proofs.Markdown.Parts
import Coursework.Proofs.Outline.Settled

/-! # Lists of one line each item

A list whose items are settled lines is read as one list of these lines. It ends where the document
ends, or behind a blank line where no further item and no indented line stands.

* **`listLine`** is the line of an item.
* **`Ended`** and **`EndsAt`** tell what is left where a list ends: `endsAt_of_settled`,
  `endsAt_other`, `endsAt_heading` and `endsAt_fence` say where it does.
* **`readBlock_list_end`** and **`exists_readFrom_list`** are the main statements. -/

namespace Coursework.Markdown

open Outline

/-! ## (1) Lines of items -/

/-- The line of an item: a hyphen or the number one, and the text. -/
def listLine (ordered : Bool) (item : Text) : Line := (if ordered then "1. " else "- ") ++ item

/-- The mark on the line of an item. -/
def itemMark (ordered : Bool) (item : Text) : Line.ListMark :=
  if ordered then ⟨0, "1", Sign.fullStop, Sign.space :: item⟩
  else ⟨0, [], Sign.hyphen, Sign.space :: item⟩

/-- The shape of the lines of an item. -/
def lineShape (ordered : Bool) : ItemShape :=
  if ordered then ⟨Sign.fullStop, 2, 3, false⟩ else ⟨Sign.hyphen, 1, 2, false⟩

section Head

variable {sign : Nat} {rest : Line}

/-- Where no space stands first, it does not matter how many might. -/
theorem marks_of_ne (other : sign ≠ Sign.space) (most : Nat) :
    Line.fence? most (sign :: rest) = Line.fence? 3 (sign :: rest) ∧
      Line.heading? most (sign :: rest) = Line.heading? 3 (sign :: rest) ∧
      Line.isThematicBreak most (sign :: rest) = Line.isThematicBreak 3 (sign :: rest) ∧
      Line.quoted? most (sign :: rest) = Line.quoted? 3 (sign :: rest) ∧
      Line.listMark? most (sign :: rest) = Line.listMark? 3 (sign :: rest) := by
  simp only [Line.fence?, Line.heading?, Line.isThematicBreak, Line.quoted?, Line.listMark?,
    afterIndentation?_of_ne other, and_self]

theorem opensAfterText_of_ne (space : sign ≠ Sign.space) (less : sign ≠ Sign.lessThan)
    (most : Nat) : Html.opensAfterText most (sign :: rest) = false := by
  rw [Html.opensAfterText, afterIndentation?_of_ne space]
  split
  · rename_i heq
    exact absurd (List.cons.inj (Option.some.inj heq)).1 less
  · rfl

theorem expandTab_of_ne (space : sign ≠ Sign.space) (tab : sign ≠ Sign.tab) (width : Nat) :
    Line.expandTab width (sign :: rest) = sign :: rest := by
  rw [Line.expandTab, afterIndentation?_of_ne space]
  split
  · rename_i heq
    exact absurd (List.cons.inj (Option.some.inj heq)).1 tab
  · rfl

end Head

variable {ordered : Bool} {item : Text}

theorem exists_listLine_eq (ordered : Bool) (item : Text) : ∃ sign rest,
    listLine ordered item = sign :: rest ∧ Sign.isBlank sign = false ∧ sign ≠ Sign.lessThan := by
  cases ordered
  · exact ⟨Sign.hyphen, Sign.space :: item, rfl, by decide, by decide⟩
  · exact ⟨49, Sign.fullStop :: Sign.space :: item, rfl, by decide, by decide⟩

/-- The line of an item begins with its mark. -/
theorem listMark?_listLine (ordered : Bool) (item : Text) :
    Line.listMark? 3 (listLine ordered item) = some (itemMark ordered item) := by
  cases ordered <;> rfl

/-- It has none of the other marks. -/
theorem unmarked_listLine (ordered : Bool) (settled : Settled item) :
    Line.fence? 3 (listLine ordered item) = none ∧
      Line.isIndented (listLine ordered item) = false ∧
      Line.heading? 3 (listLine ordered item) = none ∧
      Line.isThematicBreak 3 (listLine ordered item) = false ∧
      Line.quoted? 3 (listLine ordered item) = none := by
  cases ordered with
  | true =>
      obtain ⟨hfence, hindented, hheading, -, hbreak, hquoted, -⟩ :=
        @unmarked_of_beginsMarkup 49 (Sign.fullStop :: Sign.space :: item) (by decide) (by decide)
      exact ⟨hfence, hindented, hheading, hbreak, hquoted⟩
  | false =>
      refine ⟨rfl, rfl, rfl, ?_, rfl⟩
      -- the text of the item is no further hyphen
      obtain ⟨sign, rest, rfl, solid, plain⟩ := settled.begins
      obtain ⟨hspace, htab⟩ := ne_of_solid solid
      have hhyphen : sign ≠ Sign.hyphen := by
        rintro rfl
        cases plain
      have hline : listLine false (sign :: rest) = Sign.hyphen :: Sign.space :: sign :: rest := rfl
      rw [hline, Line.isThematicBreak, afterIndentation?_of_ne (by decide)]
      simp [hspace, htab, hhyphen, Line.isInline]

/-- The first line of an item is its text. -/
theorem itemShape_itemMark (ordered : Bool) (settled : Settled item) :
    itemShape (itemMark ordered item) = ([item], lineShape ordered) := by
  obtain ⟨sign, rest, rfl, solid, -⟩ := settled.begins
  obtain ⟨hspace, htab⟩ := ne_of_solid solid
  have hindentation : Line.indentation (Sign.space :: sign :: rest) = 1 := by
    simp [Line.indentation, hspace]
  have hafter : Line.afterIndentation? 3 (Sign.space :: sign :: rest) = some (sign :: rest) := by
    rw [Line.afterIndentation?, hindentation]
    simp [Line.unindented, hspace]
  have hexpand : Line.expandTab 3 (Sign.space :: sign :: rest) = Sign.space :: sign :: rest := by
    rw [Line.expandTab, hafter]
    split
    · rename_i heq
      exact absurd (List.cons.inj (Option.some.inj heq)).1 htab
    · rfl
  have hwiden : Line.widenTab (Sign.space :: sign :: rest) = Sign.space :: sign :: rest := by
    rw [Line.widenTab, hafter]
    split
    · rename_i heq
      exact absurd (List.cons.inj (Option.some.inj heq)).1 htab
    · rfl
  have hblank : Text.isBlank (Sign.space :: sign :: rest) = false := by
    simp [Text.isBlank, solid]
  have hgap : (Sign.space :: sign :: rest).takeWhile Sign.isBlank = [Sign.space] := by
    rw [List.takeWhile_cons_of_pos (by decide), List.takeWhile_cons_of_neg (by simp [solid])]
  cases ordered <;>
    simp [itemShape, itemMark, lineShape, hexpand, hwiden, hblank, hgap, hindentation,
      Line.ListMark.width, Text.ofString]

/-! ## (2) Ends of items -/

variable (nesting : Nesting)

/-- The next item of a list ends the item before it. -/
theorem interruptItem_next (ordered : Bool) (settled : Settled item) (steps : Nat)
    (lines : List Line) (draft : Draft) :
    interruptItem nesting (steps + 1) (lineShape ordered) (listLine ordered item) lines draft =
      some (.item (itemMark ordered item), draft, lines) := by
  obtain ⟨-, -, -, hbreak, -⟩ := unmarked_listLine ordered settled
  have hnext : Line.nextMark? (lineShape ordered).most (lineShape ordered).sign
      (listLine ordered item) = some (itemMark ordered item) := by
    cases ordered <;> rfl
  obtain ⟨sign, rest, hline, solid, -⟩ := exists_listLine_eq ordered item
  rw [hline] at hbreak hnext ⊢
  simp only [interruptItem, marks_of_ne (ne_of_solid solid).1 (lineShape ordered).most, hbreak,
    hnext, Bool.false_eq_true, if_false]

/-- An item of the other kind ends the list. -/
theorem interruptItem_other (ordered : Bool) (settled : Settled item) (steps : Nat)
    (lines : List Line) (draft : Draft) :
    interruptItem nesting (steps + 1) (lineShape ordered) (listLine (!ordered) item) lines draft =
      some (.plain, draft, listLine (!ordered) item :: lines) := by
  obtain ⟨hfence, -, hheading, hbreak, hquoted⟩ := unmarked_listLine (!ordered) settled
  have hlist := listMark?_listLine (!ordered) item
  have hnext : Line.nextMark? (lineShape ordered).most (lineShape ordered).sign
      (listLine (!ordered) item) = none := by
    cases ordered <;> rfl
  obtain ⟨sign, rest, hline, solid, less⟩ := exists_listLine_eq (!ordered) item
  rw [hline] at hfence hheading hbreak hquoted hlist hnext ⊢
  have hspace := (ne_of_solid solid).1
  simp only [interruptItem, marks_of_ne hspace (lineShape ordered).most, hbreak, hnext, hfence,
    hheading, hquoted, opensAfterText_of_ne hspace less, hlist, Bool.false_eq_true, if_false]

/-- A settled line is no further item. -/
theorem nextMark?_of_settled (ordered : Bool) {line : Line} (settled : Settled line) :
    Line.nextMark? (lineShape ordered).most (lineShape ordered).sign line = none := by
  have hlist := listMark?_of_settled settled
  obtain ⟨sign, rest, rfl, solid, -⟩ := settled.begins
  have hspace := (ne_of_solid solid).1
  rw [Line.nextMark?, (marks_of_ne hspace (lineShape ordered).most).2.2.2.2, hlist]
  rfl

/-- Nothing ends an item at any other settled line. -/
theorem interruptItem_of_settled (ordered : Bool) {line : Line} (settled : Settled line)
    (steps : Nat) (lines : List Line) (draft : Draft) :
    interruptItem nesting (steps + 1) (lineShape ordered) line lines draft = none := by
  have hnext := nextMark?_of_settled ordered settled
  have hlist := listMark?_of_settled settled
  obtain ⟨sign, rest, rfl, solid, plain⟩ := settled.begins
  obtain ⟨hfence, -, hheading, -, hbreak, hquoted, -⟩ :=
    @unmarked_of_beginsMarkup sign rest solid plain
  have less : sign ≠ Sign.lessThan := by
    rintro rfl
    cases plain
  have hspace := (ne_of_solid solid).1
  simp only [interruptItem, marks_of_ne hspace (lineShape ordered).most, hbreak, hnext, hfence,
    hheading, hquoted, opensAfterText_of_ne hspace less, hlist, Bool.false_eq_true, if_false]

/-! ## (3) Items -/

theorem width_lineShape (ordered : Bool) : ¬(lineShape ordered).width ≤ 0 := by
  cases ordered <;> decide

/-- A line that is neither blank nor indented may end the lines of an item in its own way. -/
theorem gatherItem_of_interrupt {sign : Nat} {rest : Line} (solid : Sign.isBlank sign = false)
    {steps : Nat} {lines : List Line} {draft : Draft} {found : ItemEnd × Draft × List Line}
    (interrupt : interruptItem nesting steps (lineShape ordered) (sign :: rest) lines draft =
      some found) (gathered : List Line) (afterBlank : Bool) :
    gatherItem nesting (steps + 1) (lineShape ordered) gathered afterBlank
        ((sign :: rest) :: lines) draft =
      ⟨gathered, found.1, found.2.1, found.2.2⟩ := by
  obtain ⟨hspace, htab⟩ := ne_of_solid solid
  simp only [gatherItem, isBlank_cons_of_solid solid, expandTab_of_ne hspace htab,
    indentation_of_ne hspace, width_lineShape, interrupt, Bool.false_eq_true, if_false]

/-- Behind a blank line it ends them in any case. -/
theorem gatherItem_afterBlank {sign : Nat} {rest : Line} (solid : Sign.isBlank sign = false)
    {steps : Nat} {lines : List Line} {draft : Draft}
    (interrupt : interruptItem nesting steps (lineShape ordered) (sign :: rest) lines draft = none)
    (gathered : List Line) :
    gatherItem nesting (steps + 1) (lineShape ordered) gathered true ((sign :: rest) :: lines)
        draft =
      ⟨gathered, .plain, draft, (sign :: rest) :: lines⟩ := by
  obtain ⟨hspace, htab⟩ := ne_of_solid solid
  simp only [gatherItem, isBlank_cons_of_solid solid, expandTab_of_ne hspace htab,
    indentation_of_ne hspace, width_lineShape, interrupt, Bool.false_eq_true, if_false, if_true]

/-- The lines of an item are its own, if the next item follows. -/
theorem gatherItem_next (ordered : Bool) (settled : Settled item) (steps : Nat)
    (lines : List Line) (draft : Draft) :
    gatherItem nesting (steps + 2) (lineShape ordered) [] false (listLine ordered item :: lines)
        draft =
      ⟨[], .item (itemMark ordered item), draft, lines⟩ := by
  have hinterrupt := interruptItem_next nesting ordered settled steps lines draft
  obtain ⟨sign, rest, hline, solid, -⟩ := exists_listLine_eq ordered item
  rw [hline] at hinterrupt ⊢
  exact gatherItem_of_interrupt nesting solid hinterrupt [] false

/-- A settled line in an item is read as a paragraph. -/
def Nesting.ReadsText (nesting : Nesting) : Prop :=
  ∀ line, Settled line →
    nesting.read { lists := !nesting.deep } [line] = ⟨[.paragraph [line]], []⟩

variable {nesting}

/-- An item is read as a paragraph, also before blank lines. -/
theorem Nesting.ReadsText.read_append (text : nesting.ReadsText) (settled : Settled item)
    {gathered : List Line} (blank : gathered.all Text.isBlank = true) :
    nesting.read { lists := !nesting.deep } (withoutBlankEnd ([item] ++ gathered)) =
      ⟨[.paragraph [item]], []⟩ := by
  have hnone : gathered.reverse.dropWhile Text.isBlank = [] :=
    List.dropWhile_eq_nil_iff.mpr fun line h =>
      List.all_eq_true.mp blank line (List.mem_reverse.mp h)
  rw [List.singleton_append, withoutBlankEnd, hnone]
  exact text item settled

/-- Below the limit settled lines are text in every container. -/
theorem readsText_readLines (levels : Nat) {depth : Nat} (below : ¬depthLimit ≤ depth) :
    Nesting.ReadsText ⟨readLines (levels + 1) depth, depthLimit ≤ depth⟩ := by
  intro line settled
  have begins : (Part.text line []).Begins := by
    obtain ⟨sign, rest, rfl, solid, -⟩ := settled.begins
    exact ⟨isBlank_cons_of_solid solid rest, fun _ _ _ h => by cases h⟩
  have stays : Part.AllStay [Part.text line []] :=
    ⟨⟨opensBlock_of_settled settled false _, fun _ h => absurd h List.not_mem_nil⟩, trivial⟩
  have hread := (Part.readLines_eq_iff levels depth [.text line []]
    (List.forall_mem_singleton.mpr begins)).mpr stays
  simp only [below, decide_false, Bool.not_false]
  exact hread

/-- An item with one paragraph. -/
def Item.ofText (text : Text) : Item := ⟨[text], [text]⟩

/-- What ends an item that no further item follows. -/
def ItemEnd.ofIndex : Option Nat → ItemEnd
  | none => .plain
  | some index => .block index

/-- The last item of a list ends at some lines: the draft around the list, the lines left and the
place of the list, if another block was read. -/
def Ended (nesting : Nesting) (ordered : Bool) (lines : List Line) (draft around : Draft)
    (rest : List Line) (index : Option Nat) : Prop :=
  ∃ gathered, gathered.all Text.isBlank = true ∧ ∀ steps,
    gatherItem nesting (steps + 3) (lineShape ordered) [] false lines draft =
      ⟨gathered, .ofIndex index, around, rest⟩

variable {tail rest : List Line} {draft around : Draft} {index : Option Nat}

/-- The items of a list are its lines, and what ends the last one ends the list. -/
theorem readItems_eq (text : nesting.ReadsText) {items : List Text}
    (settled : ∀ other ∈ item :: items, Settled other)
    (ended : Ended nesting ordered tail draft around rest index) (steps : Nat) :
    readItems nesting (items.length + (steps + 4)) (itemMark ordered item)
        (items.map (listLine ordered) ++ tail) draft =
      ((item :: items).map Item.ofText, around, rest, index) := by
  induction items generalizing item with
  | nil =>
      obtain ⟨gathered, blank, ends⟩ := ended
      have hitem := settled item List.mem_cons_self
      rw [List.length_nil, Nat.zero_add, List.map_nil, List.nil_append, readItems,
        itemShape_itemMark ordered hitem]
      simp only [ends, text.read_append hitem blank]
      cases index <;> rfl
  | cons next items ih =>
      obtain ⟨hitem, hitems⟩ := List.forall_mem_cons.mp settled
      have hsteps : (next :: items).length + (steps + 4) = (items.length + (steps + 4)) + 1 := by
        rw [List.length_cons]
        omega
      have hgather : gatherItem nesting (items.length + (steps + 4)) (lineShape ordered) [] false
          (listLine ordered next :: (items.map (listLine ordered) ++ tail)) draft = _ :=
        gatherItem_next nesting ordered (hitems next List.mem_cons_self) _ _ draft
      have hread := text.read_append hitem (List.all_nil (f := Text.isBlank))
      have hrest : readItems nesting (items.length + (steps + 4)) (itemMark ordered next)
          (items.map (listLine ordered) ++ tail) (draft.define []) = _ := ih hitems
      rw [hsteps, List.map_cons, List.cons_append, readItems, itemShape_itemMark ordered hitem]
      simp only [hgather, hread, hrest]
      rfl

/-! ## (4) Lists -/

namespace Draft

/-- A list behind the blocks before it; another block may have been read on the way. -/
def place (draft : Draft) : Option Nat → Block → Draft
  | none, list => draft.push list
  | some index, list => draft.insertAt index list

theorem insertAt_push (draft : Draft) (block list : Block) :
    (draft.push block).insertAt draft.blocks.length list = (draft.push list).push block := by
  simp [push, insertAt]

end Draft

/-- A list is read up to where its last item ends. -/
theorem readBlock_list (text : nesting.ReadsText) {items : List Text}
    (settled : ∀ other ∈ item :: items, Settled other)
    (ended : Ended nesting ordered tail draft around rest index)
    (outside : draft.inParagraph = false) :
    readBlock nesting {} (listLine ordered item) (items.map (listLine ordered) ++ tail) draft =
      (around.place index (.list ordered ((item :: items).map Item.ofText)), rest) := by
  obtain ⟨hfence, hindented, hheading, hbreak, hquoted⟩ :=
    unmarked_listLine ordered (settled item List.mem_cons_self)
  have hunderline : (draft.inParagraph && (Line.underline? (listLine ordered item)).isSome) =
      false := by rw [outside, Bool.false_and]
  have hsteps : stepsFor (items.map (listLine ordered) ++ tail) =
      items.length + ((3 * items.length + 4 * tail.length + 3) + 4) + 1 := by
    rw [stepsFor, List.length_append, List.length_map]
    omega
  have hmark : (itemMark ordered item).isOrdered = ordered := by
    cases ordered <;> rfl
  rw [readBlock_of_unmarked nesting _ hfence hindented hheading hunderline, hbreak, hquoted,
    listMark?_listLine, hsteps]
  simp only [readList, outside, Bool.false_and, Bool.false_eq_true, if_false, hmark,
    readItems_eq text settled ended]
  cases index <;> rfl

/-- A list at the end of a document. -/
theorem readBlock_list_end (text : nesting.ReadsText) {items : List Text}
    (settled : ∀ other ∈ item :: items, Settled other) (outside : draft.inParagraph = false) :
    readBlock nesting {} (listLine ordered item) (items.map (listLine ordered)) draft =
      (draft.push (.list ordered ((item :: items).map Item.ofText)), []) := by
  have ended : Ended nesting ordered [] draft draft [] none := ⟨[], rfl, fun steps => rfl⟩
  have hread := readBlock_list text settled ended outside
  rwa [List.append_nil] at hread

/-- What follows a list behind a blank line: lines that do not belong to it, or a block that is
read on the way. -/
inductive EndsAt (nesting : Nesting) (ordered : Bool) (line : Line) (lines : List Line) : Prop
  /-- Nothing is read on the way. -/
  | plain (ended : ∀ draft, Ended nesting ordered ([] :: line :: lines) draft draft
      (line :: lines) none)
  /-- The block at the line is. -/
  | block (block : Block) (rest : List Line)
    (reads : ∀ draft, readBlock nesting {} line lines draft = (draft.push block, rest))
    (ended : ∀ draft, Ended nesting ordered ([] :: line :: lines) draft (draft.push block) rest
      (some draft.blocks.length))

/-- **A list is read as one block**, and what follows is read behind it. -/
theorem exists_readFrom_list {line : Line} {lines : List Line}
    (endsAt : EndsAt nesting ordered line lines) (text : nesting.ReadsText) {items : List Text}
    (settled : ∀ other ∈ item :: items, Settled other) (outside : draft.inParagraph = false)
    (steps : Nat) :
    ∃ left, steps ≤ left ∧ readFrom nesting {} (steps + 1)
        ((item :: items).map (listLine ordered) ++ [] :: line :: lines) draft =
      readFrom nesting {} left (line :: lines)
        (draft.push (.list ordered ((item :: items).map Item.ofText))) := by
  rw [List.map_cons, List.cons_append, readFrom_cons]
  cases endsAt with
  | plain ended =>
      rw [readBlock_list text settled (ended draft) outside]
      exact ⟨steps, Nat.le_refl _, rfl⟩
  | block block rest reads ended =>
      rw [readBlock_list text settled (ended draft) outside]
      refine ⟨steps + 1, Nat.le_succ _, ?_⟩
      rw [readFrom_cons, reads, Draft.place, Draft.insertAt_push]

/-! ## (5) Ends of lists -/

variable (nesting) {lines : List Line}

/-- Only the line behind the blank one decides how a list ends. -/
theorem ended_of_interrupt {sign : Nat} {line : Line} (solid : Sign.isBlank sign = false)
    (interrupt : ∀ steps, interruptItem nesting (steps + 1) (lineShape ordered) (sign :: line)
      lines draft = some (.ofIndex index, around, rest)) :
    Ended nesting ordered ([] :: (sign :: line) :: lines) draft around rest index :=
  ⟨[[]], rfl, fun steps => gatherItem_of_interrupt nesting solid (interrupt steps) [[]] true⟩

/-- A list ends at a settled line. -/
theorem endsAt_of_settled {line : Line} (settled : Settled line) (lines : List Line) :
    EndsAt nesting ordered line lines := by
  refine .plain fun draft => ⟨[[]], rfl, fun steps => ?_⟩
  have hinterrupt := interruptItem_of_settled nesting ordered settled steps lines draft
  obtain ⟨sign, rest, rfl, solid, -⟩ := settled.begins
  exact gatherItem_afterBlank nesting solid hinterrupt [[]]

/-- A list ends at an item of the other kind. -/
theorem endsAt_other (ordered : Bool) (settled : Settled item) (lines : List Line) :
    EndsAt nesting ordered (listLine (!ordered) item) lines := by
  refine .plain fun draft => ?_
  have hinterrupt (steps : Nat) := interruptItem_other nesting ordered settled steps lines draft
  obtain ⟨sign, rest, hline, solid, -⟩ := exists_listLine_eq (!ordered) item
  rw [hline] at hinterrupt ⊢
  exact ended_of_interrupt nesting solid hinterrupt

/-- A list ends at a heading. -/
theorem endsAt_heading (ordered : Bool) {rest : Line} {depth : Nat} {content : Text}
    (heading : Line.heading? 3 (Sign.hash :: rest) = some (depth, content)) (lines : List Line) :
    EndsAt nesting ordered (Sign.hash :: rest) lines := by
  refine .block (.heading depth content) lines (readBlock_heading nesting heading lines)
    fun draft => ended_of_interrupt nesting (by decide) fun steps => ?_
  have hbreak : Line.isThematicBreak 3 (Sign.hash :: rest) = false := rfl
  have hfence : Line.fence? 3 (Sign.hash :: rest) = none := rfl
  have hspace : Sign.hash ≠ Sign.space := by decide
  have hnext : Line.nextMark? (lineShape ordered).most (lineShape ordered).sign
      (Sign.hash :: rest) = none := by
    have digit : Sign.isDecimal Sign.hash = false := by decide
    have bullet : Line.isBullet Sign.hash = false := by decide
    simp [Line.nextMark?, Line.listMark?, afterIndentation?_of_ne hspace, digit, bullet]
  simp only [interruptItem, marks_of_ne hspace (lineShape ordered).most, hbreak, hnext, hfence,
    heading, Bool.false_eq_true, if_false, ItemEnd.ofIndex]

/-- A list ends at code. -/
theorem endsAt_fence (ordered : Bool) (lines : List Line) :
    EndsAt nesting ordered fenceLine lines := by
  refine .block _ _ (readBlock_fence nesting lines)
    fun draft => ended_of_interrupt nesting (by decide) fun steps => ?_
  have hbreak : Line.isThematicBreak 3 fenceLine = false := rfl
  have hfence : Line.fence? 3 fenceLine = some bareFence := rfl
  have hnext : Line.nextMark? (lineShape ordered).most (lineShape ordered).sign fenceLine =
      none := by
    cases ordered <;> rfl
  rw [fenceLine] at hbreak hfence hnext
  have hspace : Sign.backtick ≠ Sign.space := by decide
  have opens : bareFence.opens = true := rfl
  simp only [interruptItem, marks_of_ne hspace (lineShape ordered).most, hbreak, hnext, hfence,
    opens, Bool.false_eq_true, if_false, if_true, ItemEnd.ofIndex]
  rfl

end Coursework.Markdown
