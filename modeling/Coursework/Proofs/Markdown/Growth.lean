import Coursework.Markdown.Block
import Coursework.Proofs.Markdown.Suffix
import Coursework.Proofs.Text.Lines
import Coursework.Proofs.Text.Trimming
import Mathlib.Data.List.DropRight

/-! # How drafts grow

Reading on adds blocks to a draft, continues its latest paragraph, makes a heading of it or adds
link definitions; nothing else becomes of a draft, whatever containers are opened on the way. What
is added has no signs but those of the lines that are read, line feeds and spaces.

* **`Draft.Grows`** is the relation between a draft and a later one.
* **`grows_readQuote`** and **`grows_readList`** say that the readers of containers make a draft
  grow, along with those for their parts, and **`grows_readBlock`** that all readers do.
* **`Block.all_ofText`**: the blocks of a text and the destinations of its definitions have no
  signs but those of the text, line feeds and spaces. -/

namespace Coursework.Markdown

variable {P : Nat → Prop}

/-! ## (1) Lines -/

/-- The signs of lines have a property. -/
def Signs (P : Nat → Prop) (lines : List Line) : Prop := ∀ line ∈ lines, ∀ sign ∈ line, P sign

theorem signs_nil : Signs P [] := fun _ h => absurd h List.not_mem_nil

theorem signs_cons {line : Line} {lines : List Line} :
    Signs P (line :: lines) ↔ (∀ sign ∈ line, P sign) ∧ Signs P lines :=
  List.forall_mem_cons

theorem signs_append {first second : List Line} :
    Signs P (first ++ second) ↔ Signs P first ∧ Signs P second :=
  List.forall_mem_append

theorem Signs.of_subset {lines some : List Line} (signs : Signs P lines) (h : some ⊆ lines) :
    Signs P some :=
  fun line member => signs line (h member)

theorem signs_unlines (newline : P Sign.newline) {lines : List Line} (signs : Signs P lines) :
    ∀ sign ∈ unlines lines, P sign := by
  intro sign h
  rcases Text.mem_joinWith h with h | ⟨line, member, h⟩
  · rw [List.mem_singleton.mp h]
    exact newline
  · exact signs line member sign h

namespace Line

/-- The closing run of a heading and the white space around the text are all that is left out. -/
theorem withoutClosing_subset (content : Text) : withoutClosing content ⊆ content := by
  have trimEnd (dropped : Nat → Bool) (text : Text) : text.trimEnd dropped ⊆ text := by
    intro sign h
    exact List.mem_reverse.mp (List.dropWhile_subset _ (List.mem_reverse.mp h))
  rw [withoutClosing]
  split
  · exact List.Subset.refl _
  · split
    · exact List.nil_subset _
    · split
      · exact List.Subset.trans (trimEnd _ _) (List.Subset.trans (trimEnd _ _) (trimEnd _ _))
      · exact List.Subset.refl _

variable {line : Line} (signs : ∀ sign ∈ line, P sign)

include signs

theorem signs_afterIndentation? {most : Nat} {rest : Line}
    (h : afterIndentation? most line = some rest) : ∀ sign ∈ rest, P sign := by
  rw [afterIndentation?] at h
  split at h
  · obtain rfl := Option.some.inj h
    exact fun sign h => signs sign (List.dropWhile_subset _ h)
  · cases h

/-- Spaces take the place of a tab. -/
theorem signs_expandTab (space : P Sign.space) (width : Nat) :
    ∀ sign ∈ line.expandTab width, P sign := by
  rw [expandTab]
  split
  · rename_i rest h
    refine List.forall_mem_append.mpr ⟨fun sign h => ?_, ?_⟩
    · rw [List.eq_of_mem_replicate h]
      exact space
    · exact (List.forall_mem_cons.mp (signs_afterIndentation? signs h)).2
  · exact signs

theorem signs_widenTab (space : P Sign.space) : ∀ sign ∈ line.widenTab, P sign := by
  rw [widenTab]
  split
  · rename_i rest h
    refine List.forall_mem_append.mpr ⟨fun sign h => ?_, ?_⟩
    · rw [List.eq_of_mem_replicate h]
      exact space
    · exact (List.forall_mem_cons.mp (signs_afterIndentation? signs h)).2
  · exact signs

theorem signs_dropSpaces (count : Nat) : ∀ sign ∈ line.dropSpaces count, P sign := by
  fun_induction dropSpaces count line with
  | case1 count rest ih => exact ih (List.forall_mem_cons.mp signs).2
  | case2 => exact signs

theorem signs_heading? {most depth : Nat} {content : Text}
    (h : heading? most line = some (depth, content)) : ∀ sign ∈ content, P sign := by
  rw [heading?] at h
  split at h
  · cases h
  · rename_i rest found
    dsimp only at h
    split at h
    · cases h
      intro sign h
      have inside := (Text.trim_isInfix _ _).subset (withoutClosing_subset _ h)
      exact signs_afterIndentation? signs found sign (List.dropWhile_subset _ inside)
    · cases h

theorem signs_quoted? {most : Nat} {rest : Line} (h : quoted? most line = some rest) :
    ∀ sign ∈ rest, P sign := by
  rw [quoted?] at h
  split at h
  · rename_i behind found
    obtain rfl := Option.some.inj h
    exact (List.forall_mem_cons.mp (signs_afterIndentation? signs found)).2
  · cases h

theorem signs_listMark? {most : Nat} {mark : ListMark} (h : listMark? most line = some mark) :
    ∀ sign ∈ mark.rest, P sign := by
  rw [listMark?] at h
  split at h
  · cases h
  · rename_i text found
    dsimp only at h
    split at h
    · cases h
    · rename_i sign rest behind
      have own : ∀ sign ∈ rest, P sign := fun other member =>
        signs_afterIndentation? signs found other
          (List.drop_subset _ text (behind ▸ List.mem_cons_of_mem sign member))
      split at h
      · cases h
      · split at h <;> split at h <;> cases h
        · exact own
        · exact own

theorem signs_nextMark? {most sign : Nat} {mark : ListMark}
    (h : nextMark? most sign line = some mark) : ∀ sign ∈ mark.rest, P sign :=
  signs_listMark? signs (Option.filter_eq_some_iff.mp h).1

end Line

/-! ## (2) Drafts -/

/-- The texts of a block, those that can be seen and those that are searched for links. -/
def Block.texts : Block → List Text
  | paragraph lines => lines
  | heading _ content => [content]
  | code content => [content]
  | quote sources => sources
  | list _ items => items.flatMap fun item => item.paragraphs ++ item.sources
  | thematicBreak | blank | html => []

/-- The signs of a block have a property. -/
def Block.All (P : Nat → Prop) (block : Block) : Prop := Signs P block.texts

theorem Block.All.sources {block : Block} (all : block.All P) (newline : P Sign.newline) :
    Signs P block.sources := by
  cases block with
  | paragraph lines => exact signs_cons.mpr ⟨signs_unlines newline all, signs_nil⟩
  | heading depth content => exact all
  | quote sources => exact all
  | list ordered items =>
      intro text member
      obtain ⟨item, hitem, htext⟩ := List.mem_flatMap.mp member
      exact all text (List.mem_flatMap.mpr ⟨item, hitem, List.mem_append_right _ htext⟩)
  | thematicBreak | blank | code _ | html => exact signs_nil

namespace Draft

/-- The destinations of definitions, as lines. -/
def targets (definitions : List Definition) : List Line := definitions.map (·.destination)

/-- The signs of the blocks and of the destinations read so far have a property. -/
structure All (P : Nat → Prop) (draft : Draft) : Prop where
  /-- The blocks. -/
  blocks : ∀ block ∈ draft.blocks, block.All P
  /-- The destinations of the definitions. -/
  targets : Signs P (targets draft.definitions)

variable {draft : Draft}

section All

variable (all : draft.All P)

include all

theorem All.push {block : Block} (own : block.All P) : (draft.push block).All P :=
  ⟨List.forall_mem_cons.mpr ⟨own, all.blocks⟩, all.targets⟩

theorem All.addLine {line : Line} (signs : ∀ sign ∈ line, P sign) : (draft.addLine line).All P := by
  have own : Signs P [line] := signs_cons.mpr ⟨signs, signs_nil⟩
  rw [Draft.addLine]
  split
  · rename_i lines blocks h
    obtain ⟨first, others⟩ := List.forall_mem_cons.mp (h ▸ all.blocks)
    exact ⟨List.forall_mem_cons.mpr ⟨signs_append.mpr ⟨first, own⟩, others⟩, all.targets⟩
  · exact all.push own

theorem All.promote (newline : P Sign.newline) (depth : Nat) : (draft.promote depth).All P := by
  rw [Draft.promote]
  split
  · rename_i lines blocks h
    obtain ⟨first, others⟩ := List.forall_mem_cons.mp (h ▸ all.blocks)
    have heading := signs_cons.mpr ⟨signs_unlines newline first, signs_nil⟩
    exact ⟨List.forall_mem_cons.mpr ⟨heading, others⟩, all.targets⟩
  · exact all

theorem All.insertAt {block : Block} (own : block.All P) (index : Nat) :
    (draft.insertAt index block).All P := by
  refine ⟨List.forall_mem_append.mpr ⟨fun block h => all.blocks block (List.mem_of_mem_take h),
    ?_⟩, all.targets⟩
  exact List.forall_mem_cons.mpr ⟨own, fun block h => all.blocks block (List.mem_of_mem_drop h)⟩

theorem All.define {definitions : List Definition} (own : Signs P (Draft.targets definitions)) :
    (draft.define definitions).All P := by
  refine ⟨all.blocks, ?_⟩
  rw [Draft.targets, Draft.define, List.map_append]
  exact signs_append.mpr ⟨own, all.targets⟩

theorem All.paragraphs (newline : P Sign.newline) : Signs P draft.paragraphs := by
  intro text member
  obtain ⟨block, hblock, h⟩ := List.mem_filterMap.mp member
  split at h
  · obtain rfl := Option.some.inj h
    exact signs_unlines newline (all.blocks _ (List.mem_reverse.mp hblock))
  · cases h

theorem All.sources (newline : P Sign.newline) : Signs P draft.sources := by
  intro text member
  obtain ⟨block, hblock, h⟩ := List.mem_flatMap.mp member
  exact (all.blocks block (List.mem_reverse.mp hblock)).sources newline text h

theorem All.item (newline : P Sign.newline) :
    Signs P (draft.item.paragraphs ++ draft.item.sources) :=
  signs_append.mpr ⟨all.paragraphs newline, all.sources newline⟩

end All

/-- A draft becomes another one by reading on; what is added to it has a property. -/
inductive Grows (P : Nat → Prop) (draft : Draft) : Draft → Prop
  /-- Nothing is added. -/
  | refl : Grows P draft draft
  /-- A block is added. -/
  | push {after : Draft} (grows : Grows P draft after) (block : Block) (own : block.All P) :
    Grows P draft (after.push block)
  /-- A line is added. -/
  | addLine {after : Draft} (grows : Grows P draft after) {line : Line}
    (signs : ∀ sign ∈ line, P sign) : Grows P draft (after.addLine line)
  /-- A paragraph becomes a heading. -/
  | promote {after : Draft} (grows : Grows P draft after) (depth : Nat) :
    Grows P draft (after.promote depth)
  /-- A block is added before others, but behind the draft's own, of which it may precede the
  latest. -/
  | insertAt {after : Draft} (grows : Grows P draft after) (index : Nat) (block : Block)
    (own : block.All P) (behind : draft.blocks.length ≤ index + 1) :
    Grows P draft (after.insertAt index block)
  /-- Definitions are added. -/
  | define {after : Draft} (grows : Grows P draft after) {definitions : List Definition}
    (own : Signs P (targets definitions)) : Grows P draft (after.define definitions)

theorem length_insertAt (draft : Draft) (index : Nat) (block : Block) :
    (draft.insertAt index block).blocks.length = draft.blocks.length + 1 := by
  have whole := congrArg List.length
    (List.take_append_drop (draft.blocks.length - index) draft.blocks)
  rw [List.length_append] at whole
  rw [insertAt, List.length_append, List.length_cons]
  omega

/-- No block is taken away. -/
theorem Grows.length_le {after : Draft} (grows : Grows P draft after) :
    draft.blocks.length ≤ after.blocks.length := by
  induction grows with
  | refl => exact Nat.le_refl _
  | push _ _ _ ih => exact Nat.le_succ_of_le ih
  | addLine _ _ ih =>
      rw [Draft.addLine]
      split
      · rename_i latest
        rwa [latest] at ih
      · exact Nat.le_succ_of_le ih
  | promote _ _ ih =>
      rw [Draft.promote]
      split
      · rename_i latest
        rwa [latest] at ih
      · exact ih
  | insertAt _ _ _ _ _ ih =>
      rw [length_insertAt]
      exact Nat.le_succ_of_le ih
  | define _ _ ih => exact ih

theorem Grows.trans {between after : Draft} (first : Grows P draft between)
    (second : Grows P between after) : Grows P draft after := by
  induction second with
  | refl => exact first
  | push _ block own ih => exact ih.push block own
  | addLine _ signs ih => exact ih.addLine signs
  | promote _ depth ih => exact ih.promote depth
  | insertAt _ index block own behind ih =>
      exact ih.insertAt index block own (Nat.le_trans first.length_le behind)
  | define _ own ih => exact ih.define own

/-- A draft whose signs have the property grows to one whose signs have it. -/
theorem Grows.all {after : Draft} (grows : Grows P draft after) (newline : P Sign.newline)
    (all : draft.All P) : after.All P := by
  induction grows with
  | refl => exact all
  | push _ block own ih => exact ih.push own
  | addLine _ signs ih => exact ih.addLine signs
  | promote _ depth ih => exact ih.promote newline depth
  | insertAt _ index block own _ ih => exact ih.insertAt own index
  | define _ own ih => exact ih.define own

end Draft

/-- A draft grows and the lines that follow have the property. -/
def Kept (P : Nat → Prop) (draft : Draft) (found : Draft × List Line) : Prop :=
  Draft.Grows P draft found.1 ∧ Signs P found.2

/-! ## (3) Leaves -/

section Leaves

variable {lines : List Line} (signs : Signs P lines) (draft : Draft)

include signs

theorem grows_readFence (newline : P Sign.newline) (fence : Line.Fence) :
    Kept P draft (readFence fence lines draft) := by
  have kept : Signs P (fencedLines fence lines).1 ∧ Signs P (fencedLines fence lines).2 := by
    induction lines with
    | nil => exact ⟨signs_nil, signs_nil⟩
    | cons line lines ih =>
        obtain ⟨first, others⟩ := signs_cons.mp signs
        rw [fencedLines]
        split
        · exact ⟨signs_nil, others⟩
        · exact ⟨signs_cons.mpr ⟨Line.signs_dropSpaces first _, (ih others).1⟩, (ih others).2⟩
  refine ⟨.push .refl _ (signs_cons.mpr ⟨fun sign h => ?_, signs_nil⟩), kept.2⟩
  refine signs_unlines newline kept.1 sign ?_
  exact List.mem_reverse.mp (List.dropWhile_subset _ (List.mem_reverse.mp h))

theorem grows_readCode (newline : P Sign.newline) (space : P Sign.space) :
    Kept P draft (readCode lines draft) := by
  have code : Signs P ((lines.takeWhile continuesCode).map fun line =>
      (line.expandTab 4).dropSpaces 4) := by
    refine List.forall_mem_map.mpr fun line member => ?_
    have own := signs line ((List.takeWhile_prefix _).subset member)
    exact Line.signs_dropSpaces (Line.signs_expandTab own space 4) 4
  refine ⟨.push .refl _ (signs_cons.mpr ⟨fun sign h => ?_, signs_nil⟩),
    signs.of_subset (List.dropWhile_subset _)⟩
  exact signs_unlines newline code sign ((Text.trim_isInfix _ _).subset h)

theorem grows_readBlank : Kept P draft (readBlank lines draft) :=
  ⟨Draft.Grows.refl.push _ signs_nil, signs.of_subset (List.dropWhile_subset _)⟩

theorem grows_readHtml {line : Line} {found : Draft × List Line} (own : ∀ sign ∈ line, P sign)
    (h : readHtml line lines draft = some found) : Kept P draft found := by
  -- the line on which HTML begins is left behind, and so is what remains of it
  have behind (ending : Text) (rest : Line) (lines : List Line) :
      afterLineWith ending (rest :: lines) ⊆ lines := by
    induction lines generalizing rest with
    | nil =>
        rw [afterLineWith]
        split
        · exact List.Subset.refl _
        · exact List.nil_subset _
    | cons line lines ih =>
        rw [afterLineWith]
        split
        · exact List.Subset.refl _
        · exact List.Subset.trans (ih line) (List.subset_cons_self line lines)
  rw [readHtml] at h
  split at h
  · cases h
  · split at h
    · cases h
      exact ⟨Draft.Grows.refl.push _ signs_nil, signs.of_subset (behind _ _ lines)⟩
    · cases h
      exact ⟨Draft.Grows.refl.push _ signs_nil, signs.of_subset (List.dropWhile_subset _)⟩
    · split at h
      · cases h
        exact ⟨Draft.Grows.refl.addLine own, signs⟩
      · split at h
        · cases h
          exact ⟨Draft.Grows.refl.push _ signs_nil, signs.of_subset (List.dropWhile_subset _)⟩
        · cases h

theorem grows_readDefinition (newline : P Sign.newline) {found : Draft × List Line}
    (h : readDefinition lines draft = some found) : Kept P draft found := by
  rw [readDefinition] at h
  split at h
  · cases h
  · obtain ⟨⟨definition, rest⟩, hfound, rfl⟩ := Option.map_eq_some_iff.mp h
    have own : Signs P (Draft.targets [definition]) := by
      refine signs_cons.mpr ⟨fun sign member => ?_, signs_nil⟩
      obtain ⟨line, hline, hsign⟩ := List.mem_flatMap.mp (Link.definition?_subset hfound member)
      rcases List.mem_append.mp hsign with hsign | hsign
      · exact signs line hline sign hsign
      · rw [List.mem_singleton.mp hsign]
        exact newline
    exact ⟨Draft.Grows.refl.define own, signs.of_subset (List.drop_subset _ lines)⟩

end Leaves

/-! ## (4) Containers -/

/-- Line feeds and spaces have the property, and what reads the text of a container keeps it. -/
structure Nesting.Keeps (P : Nat → Prop) (nesting : Nesting) : Prop where
  /-- A line feed has it. -/
  newline : P Sign.newline
  /-- So has a space. -/
  space : P Sign.space
  /-- The text of a container is read so that it is kept. -/
  read : ∀ rules {lines}, Signs P lines → (nesting.read rules lines).All P

/-- The text beside the mark of a further item keeps it, and a list that another block ends has its
place behind all blocks of the draft. -/
structure ItemEnd.All (P : Nat → Prop) (draft : Draft) (ending : ItemEnd) : Prop where
  /-- The text beside the mark. -/
  mark : ∀ mark, ending = .item mark → ∀ sign ∈ mark.rest, P sign
  /-- The place of the list. -/
  place : ∀ index, ending = .block index → draft.blocks.length ≤ index

/-- The lines of an item keep it, and a draft grows to what was read around the item. -/
structure Gathered.All (P : Nat → Prop) (draft : Draft) (gathered : Gathered) : Prop where
  /-- The lines of the item. -/
  lines : Signs P gathered.lines
  /-- The mark of the next item, or the place of the list. -/
  ending : gathered.ending.All P draft
  /-- The blocks around it. -/
  draft : draft.Grows P gathered.draft
  /-- What follows. -/
  rest : Signs P gathered.rest

theorem ItemEnd.all_plain {draft : Draft} : ItemEnd.plain.All P draft where
  mark _ h := by cases h
  place _ h := by cases h

theorem ItemEnd.all_block (draft : Draft) : (ItemEnd.block draft.blocks.length).All P draft where
  mark _ h := by cases h
  place _ h := by
    cases h
    exact Nat.le_refl _

section Parts

variable (space : P Sign.space) {lines : List Line}

include space

theorem signs_markedLines (signs : Signs P lines) :
    Signs P (markedLines lines).1 ∧ Signs P (markedLines lines).2 := by
  induction lines with
  | nil => exact ⟨signs_nil, signs_nil⟩
  | cons line lines ih =>
      obtain ⟨first, others⟩ := signs_cons.mp signs
      rw [markedLines]
      split
      · exact ⟨signs_nil, signs⟩
      · rename_i content found
        have own := Line.signs_quoted? first found
        have freed := Line.signs_dropSpaces (Line.signs_expandTab own space 3) 1
        exact ⟨signs_cons.mpr ⟨freed, (ih others).1⟩, (ih others).2⟩

theorem signs_itemShape {mark : Line.ListMark} (own : ∀ sign ∈ mark.rest, P sign) :
    Signs P (itemShape mark).1 := by
  have text := Line.signs_widenTab (Line.signs_expandTab own space 3) space
  rw [itemShape]
  split
  · exact signs_nil
  · exact signs_cons.mpr ⟨fun sign h => text sign (List.drop_subset _ _ h), signs_nil⟩

omit space in
theorem withoutBlankEnd_subset (lines : List Line) : withoutBlankEnd lines ⊆ lines := by
  cases lines with
  | nil => exact List.Subset.refl _
  | cons first lines =>
      refine List.cons_subset_cons first fun line h => ?_
      exact List.mem_reverse.mp (List.dropWhile_subset _ (List.mem_reverse.mp h))

end Parts

section Containers

variable {nesting : Nesting}

mutual

/-- A quote makes a draft grow. -/
theorem grows_readQuote (keeps : nesting.Keeps P) (steps : Nat) {first : Line}
    {lines : List Line} (draft : Draft) (own : ∀ sign ∈ first, P sign) (signs : Signs P lines) :
    Kept P draft (readQuote nesting steps first lines draft) := by
  cases steps with
  | zero => exact ⟨.refl, signs⟩
  | succ steps =>
      have freed := Line.signs_dropSpaces (Line.signs_expandTab own keeps.space 3) 1
      have widened {lines : List Line} (own : Signs P lines) : Signs P (lines.map Line.widenTab) :=
        List.forall_mem_map.mpr fun line member => Line.signs_widenTab (own line member) keeps.space
      -- however its lines are gathered, of the text of a quote the definitions and sources are kept
      have closed {around inner : Draft} (grows : draft.Grows P around) (all : inner.All P)
          {rest : List Line} (behind : Signs P rest) (ended : Bool) :
          Kept P draft (if ended = true then
              ((around.define inner.definitions).insertBeforeLast (.quote inner.sources), rest)
            else ((around.define inner.definitions).push (.quote inner.sources), rest)) := by
        have defined := grows.define all.targets
        have quote : (Block.quote inner.sources).All P := all.sources keeps.newline
        split
        · have longer := defined.length_le
          exact ⟨defined.insertAt _ _ quote (by omega), behind⟩
        · exact ⟨defined.push _ quote, behind⟩
      simp only [readQuote]
      split
      · have marked := signs_markedLines keeps.space signs
        exact closed .refl
          (keeps.read _ (widened (signs_cons.mpr ⟨freed, marked.1⟩))) marked.2 false
      · obtain ⟨lines, grows, behind⟩ := grows_gatherQuote keeps steps false draft
          (signs_cons.mpr ⟨freed, signs_nil⟩) signs
        exact closed grows (keeps.read _ (widened lines)) behind _

/-- So does the search for its lines. -/
theorem grows_gatherQuote (keeps : nesting.Keeps P) (steps : Nat) {gathered lines : List Line}
    (afterBlank : Bool) (draft : Draft) (found : Signs P gathered) (signs : Signs P lines) :
    Signs P (gatherQuote nesting steps gathered afterBlank lines draft).1 ∧
      draft.Grows P (gatherQuote nesting steps gathered afterBlank lines draft).2.1 ∧
      Signs P (gatherQuote nesting steps gathered afterBlank lines draft).2.2.1 := by
  cases steps with
  | zero => exact ⟨found, .refl, signs⟩
  | succ steps =>
      cases lines with
      | nil => exact ⟨found, .refl, signs_nil⟩
      | cons line lines =>
          obtain ⟨first, others⟩ := signs_cons.mp signs
          rw [gatherQuote]
          have marked := signs_markedLines keeps.space signs
          split
          · split
            · exact ⟨found, .refl, signs⟩
            · split
              · rename_i h
                exact ⟨found, grows_interruptQuote keeps steps draft first others h⟩
              · exact grows_gatherQuote keeps steps false draft (signs_append.mpr ⟨found,
                  signs_cons.mpr ⟨Line.signs_expandTab first keeps.space 3, signs_nil⟩⟩) others
          · rename_i h
            rw [h] at marked
            have more := signs_append.mpr ⟨found, marked.1⟩
            exact grows_gatherQuote keeps steps _ draft more marked.2

/-- So does the block that ends it. -/
theorem grows_interruptQuote (keeps : nesting.Keeps P) (steps : Nat) {line : Line}
    {lines : List Line} (draft : Draft) {result : Draft × List Line} (own : ∀ sign ∈ line, P sign)
    (signs : Signs P lines) (h : interruptQuote nesting steps line lines draft = some result) :
    Kept P draft result := by
  cases steps with
  | zero => cases h
  | succ steps =>
      rw [interruptQuote] at h
      -- a blank line, a thematic break, a fence, a list or HTML ends a quote
      split at h
      · cases h
        exact grows_readBlank signs draft
      · split at h
        · cases h
          exact ⟨Draft.Grows.refl.push _ signs_nil, signs⟩
        · split at h
          · split at h
            · cases h
              exact grows_readFence signs draft keeps.newline _
            · cases h
          · split at h
            · rename_i mark found
              cases h
              exact grows_readList keeps steps draft own (Line.signs_listMark? own found) signs
            · split at h
              · exact grows_readHtml signs draft own h
              · cases h

/-- A list makes a draft grow. -/
theorem grows_readList (keeps : nesting.Keeps P) (steps : Nat) {line : Line} {mark : Line.ListMark}
    {lines : List Line} (draft : Draft) (own : ∀ sign ∈ line, P sign)
    (beside : ∀ sign ∈ mark.rest, P sign) (signs : Signs P lines) :
    Kept P draft (readList nesting steps line mark lines draft) := by
  cases steps with
  | zero => exact ⟨.refl, signs⟩
  | succ steps =>
      have items := grows_readItems keeps steps draft beside signs
      rw [readList]
      split
      · exact ⟨Draft.Grows.refl.addLine own, signs⟩
      · generalize readItems nesting steps mark lines draft = found at items
        obtain ⟨listed, around, rest, index⟩ := found
        obtain ⟨shown, grows, behind, place⟩ := items
        cases index with
        | none => exact ⟨grows.push _ shown, behind⟩
        | some index =>
            exact ⟨grows.insertAt index _ shown (Nat.le_succ_of_le (place index rfl)), behind⟩

/-- So do its items. -/
theorem grows_readItems (keeps : nesting.Keeps P) (steps : Nat) {mark : Line.ListMark}
    {lines : List Line} (draft : Draft) (beside : ∀ sign ∈ mark.rest, P sign)
    (signs : Signs P lines) :
    (Block.list mark.isOrdered (readItems nesting steps mark lines draft).1).All P ∧
      draft.Grows P (readItems nesting steps mark lines draft).2.1 ∧
      Signs P (readItems nesting steps mark lines draft).2.2.1 ∧
      ∀ index, (readItems nesting steps mark lines draft).2.2.2 = some index →
        draft.blocks.length ≤ index := by
  cases steps with
  | zero => exact ⟨signs_nil, .refl, signs, fun _ h => by cases h⟩
  | succ steps =>
      have gathered := grows_gatherItem keeps steps (itemShape mark).2 false draft signs_nil signs
      have own := signs_itemShape keeps.space beside
      rw [readItems]
      generalize itemShape mark = found at gathered own
      obtain ⟨first, shape⟩ := found
      dsimp only at gathered own ⊢
      generalize gatherItem nesting steps shape [] false lines draft = item at gathered
      have inner := keeps.read { lists := !nesting.deep } ((signs_append.mpr
        ⟨own, gathered.lines⟩).of_subset (withoutBlankEnd_subset _))
      generalize nesting.read { lists := !nesting.deep } (withoutBlankEnd (first ++ item.lines)) =
        text at inner
      have shown := inner.item keeps.newline
      have around := gathered.draft.define inner.targets
      have ending := gathered.ending
      split
      · exact ⟨signs_append.mpr ⟨shown, signs_nil⟩, around, gathered.rest, fun _ h => by cases h⟩
      · rename_i index h
        refine ⟨signs_append.mpr ⟨shown, signs_nil⟩, around, gathered.rest, ?_⟩
        rintro _ ⟨⟩
        exact ending.place index h
      · rename_i next h
        obtain ⟨others, grows, behind, place⟩ := grows_readItems keeps steps
          (item.draft.define text.definitions) (ending.mark next h) gathered.rest
        exact ⟨signs_append.mpr ⟨shown, others⟩, around.trans grows, behind,
          fun index h => Nat.le_trans around.length_le (place index h)⟩

/-- So does the search for the lines of an item. -/
theorem grows_gatherItem (keeps : nesting.Keeps P) (steps : Nat) (shape : ItemShape)
    {gathered lines : List Line} (afterBlank : Bool) (draft : Draft) (found : Signs P gathered)
    (signs : Signs P lines) :
    (gatherItem nesting steps shape gathered afterBlank lines draft).All P draft := by
  cases steps with
  | zero => exact ⟨found, ItemEnd.all_plain, .refl, signs⟩
  | succ steps =>
      cases lines with
      | nil => exact ⟨found, ItemEnd.all_plain, .refl, signs_nil⟩
      | cons line lines =>
          obtain ⟨first, others⟩ := signs_cons.mp signs
          have more {other : Line} (own : ∀ sign ∈ other, P sign) : Signs P (gathered ++ [other]) :=
            signs_append.mpr ⟨found, signs_cons.mpr ⟨own, signs_nil⟩⟩
          have expanded := Line.signs_expandTab first keeps.space 4
          simp only [gatherItem]
          split
          · exact grows_gatherItem keeps steps shape true draft
              (more fun _ h => absurd h List.not_mem_nil) others
          · split
            · split
              · exact ⟨found, ItemEnd.all_plain, .refl, signs⟩
              · exact grows_gatherItem keeps steps shape false draft (more (Line.signs_widenTab
                  (fun sign h => expanded sign (List.drop_subset _ _ h)) keeps.space)) others
            · split
              · rename_i h
                obtain ⟨ending, kept⟩ := grows_interruptItem keeps steps draft first others h
                exact ⟨found, ending, kept.1, kept.2⟩
              · split
                · exact ⟨found, ItemEnd.all_plain, .refl, signs⟩
                · exact grows_gatherItem keeps steps shape false draft (more expanded) others

/-- So does what ends one. -/
theorem grows_interruptItem (keeps : nesting.Keeps P) (steps : Nat) {shape : ItemShape}
    {line : Line} {lines : List Line} (draft : Draft) {result : ItemEnd × Draft × List Line}
    (own : ∀ sign ∈ line, P sign) (signs : Signs P lines)
    (h : interruptItem nesting steps shape line lines draft = some result) :
    result.1.All P draft ∧ Kept P draft result.2 := by
  cases steps with
  | zero => cases h
  | succ steps =>
      simp only [interruptItem] at h
      -- a thematic break, the next item, a fence, a heading, a quote, HTML or another list ends an
      -- item
      split at h
      · cases h
        exact ⟨ItemEnd.all_block _, Draft.Grows.refl.push _ signs_nil, signs⟩
      · split at h
        · rename_i mark found
          cases h
          refine ⟨⟨?_, fun _ h => by cases h⟩, .refl, signs⟩
          rintro _ ⟨⟩
          exact Line.signs_nextMark? own found
        · split at h
          · split at h
            · cases h
              exact ⟨ItemEnd.all_block _, grows_readFence signs draft keeps.newline _⟩
            · cases h
          · split at h
            · rename_i found
              cases h
              exact ⟨ItemEnd.all_block _,
                .push .refl _ (signs_cons.mpr ⟨Line.signs_heading? own found, signs_nil⟩), signs⟩
            · split at h
              · rename_i found
                cases h
                exact ⟨ItemEnd.all_block _,
                  grows_readQuote keeps steps draft (Line.signs_quoted? own found) signs⟩
              · split at h
                · obtain ⟨found, hfound, rfl⟩ := Option.map_eq_some_iff.mp h
                  exact ⟨ItemEnd.all_block _, grows_readHtml signs draft own hfound⟩
                · split at h
                  · cases h
                    exact ⟨ItemEnd.all_plain, .refl, signs_cons.mpr ⟨own, signs⟩⟩
                  · cases h

end

end Containers

/-! ## (5) Levels -/

section Levels

variable {nesting : Nesting} (keeps : nesting.Keeps P)

include keeps

theorem grows_readBlock (rules : Rules) {line : Line} {lines : List Line} (draft : Draft)
    (own : ∀ sign ∈ line, P sign) (signs : Signs P lines) :
    Kept P draft (readBlock nesting rules line lines draft) := by
  have asText : Kept P draft (draft.addLine line, lines) := ⟨Draft.Grows.refl.addLine own, signs⟩
  have both : Signs P (line :: lines) := signs_cons.mpr ⟨own, signs⟩
  rw [readBlock]
  -- in the order in which kinds of blocks are tried; a line that opens none is text
  split
  · split
    · exact grows_readFence signs draft keeps.newline _
    · exact asText
  · split
    · split
      · exact asText
      · split
        · exact grows_readBlank signs draft
        · exact grows_readCode both draft keeps.newline keeps.space
    · split
      · rename_i found
        exact ⟨.push .refl _ (signs_cons.mpr ⟨Line.signs_heading? own found, signs_nil⟩), signs⟩
      · dsimp only
        split
        · exact ⟨Draft.Grows.refl.promote _, signs⟩
        · split
          · exact ⟨Draft.Grows.refl.push _ signs_nil, signs⟩
          · split
            · rename_i found
              split at found
              · exact grows_readQuote keeps _ draft (Line.signs_quoted? own found) signs
              · cases found
            · split
              · rename_i found
                split at found
                · exact grows_readList keeps _ draft own (Line.signs_listMark? own found) signs
                · cases found
              · split
                · exact grows_readBlank signs draft
                · cases defined : readDefinition (line :: lines) draft with
                  | some found => exact grows_readDefinition both draft keeps.newline defined
                  | none =>
                      cases html : readHtml line lines draft with
                      | some found => exact grows_readHtml signs draft own html
                      | none => exact asText

theorem grows_readFrom (rules : Rules) (steps : Nat) {lines : List Line} (draft : Draft)
    (signs : Signs P lines) : draft.Grows P (readFrom nesting rules steps lines draft) := by
  induction steps generalizing lines draft with
  | zero => exact .refl
  | succ steps ih =>
      cases lines with
      | nil => exact .refl
      | cons line lines =>
          obtain ⟨first, others⟩ := signs_cons.mp signs
          obtain ⟨grows, behind⟩ := grows_readBlock keeps rules draft first others
          exact grows.trans (ih _ behind)

end Levels

theorem all_readLines (newline : P Sign.newline) (space : P Sign.space) (levels depth : Nat)
    (rules : Rules) {lines : List Line} (signs : Signs P lines) :
    (readLines levels depth rules lines).All P := by
  have nothing : ({} : Draft).All P := ⟨fun _ h => absurd h List.not_mem_nil, signs_nil⟩
  induction levels generalizing depth rules lines with
  | zero => exact nothing
  | succ levels ih =>
      have keeps : Nesting.Keeps P ⟨readLines levels (depth + 1), depthLimit ≤ depth + 1⟩ :=
        ⟨newline, space, fun rules _ signs => ih (depth + 1) rules signs⟩
      exact (grows_readFrom keeps rules _ {} signs).all newline nothing

/-- The lines of a text have no signs but those of the text and line feeds. -/
theorem signs_linesOf (newline : P Sign.newline) {text : Text} (signs : ∀ sign ∈ text, P sign) :
    Signs P (linesOf text) := by
  have unix : ∀ sign ∈ text.unixLines, P sign := by
    intro sign h
    rcases Text.mem_unixLines h with h | rfl
    · exact signs sign h
    · exact newline
  have lines : Signs P text.unixLines.lines :=
    fun line member sign h => unix sign (Text.mem_of_mem_splitAt member h)
  rw [linesOf]
  split
  · exact lines.of_subset (List.dropLast_subset _)
  · exact lines

/-- Neither have its blocks and definitions, but for spaces. -/
theorem Block.all_ofText (newline : P Sign.newline) (space : P Sign.space) {text : Text}
    (signs : ∀ sign ∈ text, P sign) :
    (∀ block ∈ (Block.ofText text).1, block.All P) ∧
      Signs P (Draft.targets (Block.ofText text).2) := by
  have all := all_readLines newline space (text.length + 1) 0 {} (signs_linesOf newline signs)
  exact ⟨fun block member => all.blocks block (List.mem_reverse.mp member), all.targets⟩

end Coursework.Markdown
