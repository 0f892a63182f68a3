import Coursework.Proofs.Markdown.Growth
import Mathlib.Data.List.Basic

/-! # What a draft cannot lose

Headings, paragraphs and blank lines are the plain blocks. The other blocks of a draft and its
definitions are its extras. Reading on never takes one away, whatever containers are
opened on the way, and a quote or a list adds one.

* **`Block.isPlain`** are the plain blocks, **`Draft.extras`** counts the rest.
* **`Draft.Grows.extras_le`**: a draft loses none when it grows.
* **`extras_lt_readQuote`** and **`extras_lt_readList`** are the statements for containers. -/

namespace Coursework.Markdown

/-! ## (1) Counting -/

/-- Headings, paragraphs and blank lines. -/
def Block.isPlain : Block → Bool
  | .paragraph _ => true
  | .heading _ _ => true
  | .blank => true
  | .thematicBreak => false
  | .code _ => false
  | .html => false
  | .quote _ => false
  | .list _ _ => false

namespace Draft

/-- The number of blocks that are not plain, and of definitions. -/
def extras (draft : Draft) : Nat :=
  draft.blocks.countP (! Block.isPlain ·) + draft.definitions.length

theorem extras_push_plain (draft : Draft) {block : Block} (plain : block.isPlain = true) :
    (draft.push block).extras = draft.extras := by
  simp [extras, push, plain]

theorem extras_push_other (draft : Draft) {block : Block} (other : block.isPlain = false) :
    (draft.push block).extras = draft.extras + 1 := by
  simp only [extras, push, List.countP_cons, other, Bool.not_false, if_true]
  omega

theorem extras_le_push (draft : Draft) (block : Block) :
    draft.extras ≤ (draft.push block).extras := by
  cases h : block.isPlain with
  | true => exact Nat.le_of_eq (extras_push_plain draft h).symm
  | false =>
      rw [extras_push_other draft h]
      omega

@[simp]
theorem extras_addLine (draft : Draft) (line : Line) :
    (draft.addLine line).extras = draft.extras := by
  rw [addLine]
  split
  · rename_i h
    simp [extras, h, Block.isPlain]
  · exact extras_push_plain draft rfl

@[simp]
theorem extras_promote (draft : Draft) (depth : Nat) :
    (draft.promote depth).extras = draft.extras := by
  rw [promote]
  split
  · rename_i h
    simp [extras, h, Block.isPlain]
  · rfl

theorem extras_insertAt (draft : Draft) (index : Nat) {block : Block}
    (other : block.isPlain = false) : (draft.insertAt index block).extras = draft.extras + 1 := by
  have htake := List.take_append_drop (draft.blocks.length - index) draft.blocks
  have hcount := congrArg (List.countP (! Block.isPlain ·)) htake
  rw [List.countP_append] at hcount
  simp only [extras, insertAt, List.countP_append, List.countP_cons, other, Bool.not_false, if_true]
  omega

theorem extras_define (draft : Draft) (definitions : List Definition) :
    (draft.define definitions).extras = draft.extras + definitions.length := by
  simp only [extras, define, List.length_append]
  omega

theorem extras_le_define (draft : Draft) (definitions : List Definition) :
    draft.extras ≤ (draft.define definitions).extras := by
  rw [extras_define]
  omega

theorem extras_le_insertAt (draft : Draft) (index : Nat) (block : Block) :
    draft.extras ≤ (draft.insertAt index block).extras := by
  have hcount := congrArg (List.countP (! Block.isPlain ·))
    (List.take_append_drop (draft.blocks.length - index) draft.blocks)
  rw [List.countP_append] at hcount
  simp only [extras, insertAt, List.countP_append, List.countP_cons]
  omega

/-- A draft that grows loses no extras. -/
theorem Grows.extras_le {P : Nat → Prop} {draft after : Draft} (grows : draft.Grows P after) :
    draft.extras ≤ after.extras := by
  induction grows with
  | refl => exact Nat.le_refl _
  | @push before _ block _ ih => exact Nat.le_trans ih (before.extras_le_push block)
  | @addLine before _ line _ ih => rwa [before.extras_addLine]
  | @promote before _ depth ih => rwa [before.extras_promote]
  | @insertAt before _ index block _ _ ih =>
      exact Nat.le_trans ih (before.extras_le_insertAt index block)
  | @define before _ definitions _ ih =>
      exact Nat.le_trans ih (before.extras_le_define definitions)

end Draft

/-! ## (2) Leaves -/

theorem extras_readFence (fence : Line.Fence) (lines : List Line) (draft : Draft) :
    (readFence fence lines draft).1.extras = draft.extras + 1 :=
  draft.extras_push_other rfl

theorem extras_readCode (lines : List Line) (draft : Draft) :
    (readCode lines draft).1.extras = draft.extras + 1 :=
  draft.extras_push_other rfl

theorem extras_readDefinition {lines : List Line} {draft : Draft} {result : Draft × List Line}
    (h : readDefinition lines draft = some result) : result.1.extras = draft.extras + 1 := by
  rw [readDefinition] at h
  split at h
  · cases h
  · rw [Option.map_eq_some_iff] at h
    obtain ⟨⟨definition, rest⟩, -, rfl⟩ := h
    exact draft.extras_define [definition]

/-! ## (3) Containers -/

/-- Whether a line with the mark of a list continues the latest paragraph all the same. -/
def Draft.continuedBy (draft : Draft) (mark : Line.ListMark) : Bool :=
  draft.inParagraph && (Text.isBlank mark.rest || (mark.isOrdered && mark.number != 1))

theorem readList_of_continues (nesting : Nesting) (steps : Nat) (line : Line)
    {mark : Line.ListMark} (lines : List Line) {draft : Draft}
    (continues : draft.continuedBy mark = true) :
    readList nesting (steps + 1) line mark lines draft = (draft.addLine line, lines) := by
  rw [readList]
  exact if_pos continues

/-- A list that does not continue a paragraph is an extra, if its items take none away. -/
theorem extras_lt_readList_of (nesting : Nesting) (steps : Nat) (line : Line)
    {mark : Line.ListMark} {lines : List Line} {draft : Draft}
    (continues : ¬draft.continuedBy mark = true)
    (items : draft.extras ≤ (readItems nesting steps mark lines draft).2.1.extras) :
    draft.extras < (readList nesting (steps + 1) line mark lines draft).1.extras := by
  rw [Draft.continuedBy] at continues
  rw [readList, if_neg continues]
  revert items
  obtain ⟨found, around, rest, index⟩ := readItems nesting steps mark lines draft
  intro items
  refine Nat.lt_of_le_of_lt items (Nat.lt_of_succ_le (Nat.le_of_eq ?_))
  cases index with
  | none => exact (around.extras_push_other rfl).symm
  | some index => exact (around.extras_insertAt index rfl).symm

/-- A quote is an extra, if the search for its lines takes none away. -/
theorem extras_lt_readQuote_of (nesting : Nesting) (steps : Nat) (first : Line)
    {lines : List Line} {draft : Draft}
    (gather : ∀ gathered,
      draft.extras ≤ (gatherQuote nesting steps gathered false lines draft).2.1.extras) :
    draft.extras < (readQuote nesting (steps + 1) first lines draft).1.extras := by
  have closed : ∀ (around inner : Draft) (rest : List Line) (ended : Bool),
      around.extras < (if ended = true then
          ((around.define inner.definitions).insertBeforeLast (.quote inner.sources), rest)
        else ((around.define inner.definitions).push (.quote inner.sources), rest)).1.extras := by
    intro around inner rest ended
    have defined := around.extras_le_define inner.definitions
    split
    · rw [Draft.insertBeforeLast, Draft.extras_insertAt _ _ rfl]
      omega
    · rw [Draft.extras_push_other _ rfl]
      omega
  simp only [readQuote]
  split
  · exact closed draft _ _ false
  · exact Nat.lt_of_le_of_lt (gather _) (closed _ _ _ _)

/-- No sign lacks a property that all have. -/
theorem Nesting.keeps_true (nesting : Nesting) : nesting.Keeps fun _ => True :=
  ⟨trivial, trivial, fun _ _ _ => ⟨fun _ _ _ _ _ _ => trivial, fun _ _ _ _ => trivial⟩⟩

/-- A quote is an extra. -/
theorem extras_lt_readQuote (nesting : Nesting) (steps : Nat) (first : Line) (lines : List Line)
    (draft : Draft) :
    draft.extras < (readQuote nesting (steps + 1) first lines draft).1.extras :=
  extras_lt_readQuote_of nesting steps first fun _ =>
    (grows_gatherQuote nesting.keeps_true steps false draft (fun _ _ _ _ => trivial)
      fun _ _ _ _ => trivial).2.1.extras_le

/-- A list is an extra, unless its first line continues a paragraph. -/
theorem extras_lt_readList (nesting : Nesting) (steps : Nat) (line : Line) {mark : Line.ListMark}
    (lines : List Line) {draft : Draft} (continues : ¬draft.continuedBy mark = true) :
    draft.extras < (readList nesting (steps + 1) line mark lines draft).1.extras :=
  extras_lt_readList_of nesting steps line continues
    (grows_readItems nesting.keeps_true steps draft (fun _ _ => trivial)
      fun _ _ _ _ => trivial).2.1.extras_le

end Coursework.Markdown
