import Coursework.Proofs.Markdown.Opening

/-! # Documents of headings and texts

A document is a sequence of parts with a blank line between each two: headings of one line, and
texts that should be read as one paragraph each. It is read as these blocks exactly if no line of a
text opens a block.

* **`Part`** is a part, **`Part.Stays`** the condition on one, **`Part.AllStay`** that on all.
* **`Part.linesOf`** and **`Part.blocksOf`** are the lines of a document and its blocks.
* **`Part.readLines_eq_iff`** is the main statement.
* **`Part.exists_blocks_readLines`**: the heading with which a document begins stays its first
  block. -/

namespace Coursework.Markdown

/-! ## (1) Parts -/

/-- A part of a document. -/
inductive Part
  /-- A heading, its line and what the line is read as. -/
  | heading (line : Line) (depth : Nat) (content : Text)
  /-- A text, by its first line and the others. -/
  | text (first : Line) (more : List Line)
  deriving DecidableEq, Repr

namespace Part

/-- The first line of a part. -/
def first : Part → Line
  | heading line _ _ => line
  | text first _ => first

/-- The lines of a part after the first. -/
def more : Part → List Line
  | heading _ _ _ => []
  | text _ more => more

/-- The lines of a part. -/
def lines (part : Part) : List Line := part.first :: part.more

@[simp]
theorem lines_text (first : Line) (more : List Line) : (text first more).lines = first :: more :=
  rfl

/-- The block that a part should be. -/
def block : Part → Block
  | heading _ depth content => .heading depth content
  | text first more => .paragraph (first :: more)

/-- The text that a part shows, before anything in it is read. -/
def source : Part → Text
  | heading _ _ content => content
  | text first more => unlines (first :: more)

theorem isPlain_block (part : Part) : part.block.isPlain = true := by
  cases part <;> rfl

/-- A part is no part of the blank lines before it, and its heading is read as one. -/
structure Begins (part : Part) : Prop where
  /-- There is something to see on the first line. -/
  seen : part.first.isBlank = false
  /-- A heading is read as one. -/
  reads : ∀ line depth content, part = heading line depth content →
    Line.fence? 3 line = none ∧ line.isIndented = false ∧
      Line.heading? 3 line = some (depth, content)

/-- No line of a text opens a block, with these lines behind the text. -/
def Stays (behind : List Line) : Part → Prop
  | heading _ _ _ => True
  | text first more => opensBlock false first (more ++ behind) = false ∧
      ∀ line ∈ more, opensBlock true line [] = false

instance (behind : List Line) (part : Part) : Decidable (part.Stays behind) := by
  cases part with
  | heading => exact isTrue trivial
  | text first more => exact inferInstanceAs (Decidable (_ ∧ _))

/-! ## (2) Documents -/

/-- The lines of parts, a blank one before each. -/
def behind : List Part → List Line
  | [] => []
  | part :: parts => [] :: (part.lines ++ behind parts)

theorem behind_eq_flatMap (parts : List Part) : behind parts = parts.flatMap ([] :: ·.lines) := by
  induction parts with
  | nil => rfl
  | cons part parts ih => rw [behind, ih, List.flatMap_cons, List.cons_append]

/-- The lines of a document. -/
def linesOf : List Part → List Line
  | [] => []
  | part :: parts => part.lines ++ behind parts

/-- The blocks of parts, a blank one before each. -/
def blocksBehind : List Part → List Block
  | [] => []
  | part :: parts => .blank :: part.block :: blocksBehind parts

/-- The blocks of a document. -/
def blocksOf : List Part → List Block
  | [] => []
  | part :: parts => part.block :: blocksBehind parts

/-- No line of a text in a document opens a block. -/
def AllStay : List Part → Prop
  | [] => True
  | part :: parts => part.Stays (behind parts) ∧ AllStay parts

instance decidableAllStay : (parts : List Part) → Decidable (AllStay parts)
  | [] => isTrue trivial
  | part :: parts =>
    have := decidableAllStay parts
    inferInstanceAs (Decidable (part.Stays (behind parts) ∧ AllStay parts))

theorem allStay_of_forall {parts : List Part}
    (stay : ∀ part ∈ parts, ∀ behind, part.Stays behind) : AllStay parts := by
  induction parts with
  | nil => trivial
  | cons part parts ih =>
      obtain ⟨own, others⟩ := List.forall_mem_cons.mp stay
      exact ⟨own _, ih others⟩

end Part

/-! ## (3) Runs -/

variable {nesting : Nesting}

theorem readFrom_cons (steps : Nat) (line : Line) (lines : List Line) (draft : Draft) :
    readFrom nesting {} (steps + 1) (line :: lines) draft =
      readFrom nesting {} steps (readBlock nesting {} line lines draft).2
        (readBlock nesting {} line lines draft).1 :=
  rfl

/-- A step takes no extras away. -/
theorem extras_le_readBlock (line : Line) (lines : List Line) (draft : Draft) :
    draft.extras ≤ (readBlock nesting {} line lines draft).1.extras :=
  (grows_readBlock nesting.keeps_true {} draft (fun _ _ => trivial)
    fun _ _ _ _ => trivial).1.extras_le

/-- Reading on takes no extras away. -/
theorem extras_le_readFrom (steps : Nat) (lines : List Line) (draft : Draft) :
    draft.extras ≤ (readFrom nesting {} steps lines draft).extras :=
  (grows_readFrom nesting.keeps_true {} steps draft fun _ _ _ _ => trivial).extras_le

/-- If nothing was added in the end, then nothing was added by the first step. -/
theorem extras_readFrom_cons {steps : Nat} {line : Line} {lines : List Line} {draft : Draft}
    (same : (readFrom nesting {} (steps + 1) (line :: lines) draft).extras = draft.extras) :
    (readBlock nesting {} line lines draft).1.extras = draft.extras ∧
      (readFrom nesting {} steps (readBlock nesting {} line lines draft).2
        (readBlock nesting {} line lines draft).1).extras =
          (readBlock nesting {} line lines draft).1.extras := by
  rw [readFrom_cons] at same
  have first : draft.extras ≤ (readBlock nesting {} line lines draft).1.extras :=
    extras_le_readBlock line lines draft
  have rest : (readBlock nesting {} line lines draft).1.extras ≤
      (readFrom nesting {} steps (readBlock nesting {} line lines draft).2
        (readBlock nesting {} line lines draft).1).extras := extras_le_readFrom steps _ _
  omega

/-! ## (4) Older blocks -/

namespace Draft

/-- The latest blocks stand on others, and do not continue their last paragraph. -/
def StandsOn (base : List Block) (draft : Draft) : Prop :=
  ∃ newer, draft.blocks = newer ++ base ∧ (newer = [] → draft.inParagraph = false)

variable {base : List Block} {draft : Draft}

theorem StandsOn.push (stands : draft.StandsOn base) (block : Block) :
    (draft.push block).StandsOn base := by
  obtain ⟨newer, hblocks, -⟩ := stands
  exact ⟨block :: newer, by rw [Draft.push, hblocks]; rfl, fun h => by cases h⟩

/-- The latest paragraph is above the others, so another block may take its place. -/
theorem StandsOn.replace (stands : draft.StandsOn base) {lines : List Line} {blocks : List Block}
    (latest : draft.blocks = .paragraph lines :: blocks) (block : Block) :
    StandsOn base { draft with blocks := block :: blocks } := by
  obtain ⟨newer, hblocks, hempty⟩ := stands
  cases newer with
  | nil =>
      rw [inParagraph, latest] at hempty
      cases hempty rfl
  | cons old newer =>
      rw [latest, List.cons_append, List.cons.injEq] at hblocks
      exact ⟨block :: newer, by rw [hblocks.2]; rfl, fun h => by cases h⟩

theorem StandsOn.addLine (stands : draft.StandsOn base) (line : Line) :
    (draft.addLine line).StandsOn base := by
  rw [Draft.addLine]
  split
  · rename_i latest
    exact stands.replace latest _
  · exact stands.push _

/-- Outside a paragraph a line of text begins one. -/
theorem addLine_of_outside (outside : draft.inParagraph = false) (line : Line) :
    draft.addLine line = draft.push (.paragraph [line]) := by
  rw [addLine]
  split
  · rename_i latest
    rw [inParagraph, latest] at outside
    cases outside
  · rfl

theorem StandsOn.promote (stands : draft.StandsOn base) (depth : Nat) :
    (draft.promote depth).StandsOn base := by
  rw [Draft.promote]
  split
  · rename_i latest
    exact stands.replace latest _
  · exact stands

/-- A block with as many blocks before it is put above the others. -/
theorem StandsOn.insertAt (stands : draft.StandsOn base) {index : Nat}
    (behind : base.length ≤ index) (block : Block) :
    (draft.insertAt index block).StandsOn base := by
  obtain ⟨newer, hblocks, -⟩ := stands
  have above : draft.blocks.length - index ≤ newer.length := by
    rw [hblocks, List.length_append]
    omega
  refine ⟨newer.take (draft.blocks.length - index) ++
    block :: newer.drop (draft.blocks.length - index), ?_, fun h => ?_⟩
  · rw [Draft.insertAt, hblocks] at *
    dsimp only
    rw [List.take_append_of_le_length above, List.drop_append_of_le_length above,
      List.append_assoc, List.cons_append]
  · cases (List.append_eq_nil_iff.mp h).2

/-- What a draft stands on stays, if there is a block above it. -/
theorem Grows.standsOn {P : Nat → Prop} {after : Draft} (grows : draft.Grows P after)
    (stands : draft.StandsOn base) (above : base.length < draft.blocks.length) :
    after.StandsOn base := by
  -- what is inserted stands behind all blocks of the first draft but the latest, so behind the base
  induction grows with
  | refl => exact stands
  | push _ block _ ih => exact ih.push block
  | addLine _ _ ih => exact ih.addLine _
  | promote _ depth ih => exact ih.promote depth
  | insertAt _ index block _ behind ih => exact ih.insertAt (by omega) block
  | define _ _ ih => exact ih

end Draft

variable {base : List Block} {draft : Draft}

/-- A step that does not add an extra leaves older blocks in their place. -/
theorem standsOn_readBlock (stands : draft.StandsOn base) (line : Line) (lines : List Line)
    (same : (readBlock nesting {} line lines draft).1.extras = draft.extras) :
    (readBlock nesting {} line lines draft).1.StandsOn base := by
  rcases readBlock_cases nesting line lines draft with ⟨-, h⟩ | ⟨-, h⟩
  · rw [h]
    exact stands.addLine line
  · cases h with
    | heading depth content h =>
        rw [h]
        exact stands.push _
    | underline depth within h =>
        rw [h]
        exact stands.promote depth
    | blank h =>
        rw [h]
        exact stands.push .blank
    | extra more => omega

/-- Reading on without a further extra leaves older blocks in their place. -/
theorem standsOn_readFrom (stands : draft.StandsOn base) (steps : Nat) (lines : List Line)
    (same : (readFrom nesting {} steps lines draft).extras = draft.extras) :
    (readFrom nesting {} steps lines draft).StandsOn base := by
  induction steps generalizing lines draft with
  | zero => exact stands
  | succ steps ih =>
      cases lines with
      | nil => exact stands
      | cons line lines =>
          obtain ⟨hfirst, hrest⟩ := extras_readFrom_cons same
          exact ih (standsOn_readBlock stands line lines hfirst) _ hrest

/-- Reading on leaves older blocks in their place whatever is added, if another block is above
them. -/
theorem standsOn_readFrom_of_above (stands : draft.StandsOn base)
    (above : base.length < draft.blocks.length) (steps : Nat) (lines : List Line) :
    (readFrom nesting {} steps lines draft).StandsOn base :=
  (grows_readFrom nesting.keeps_true {} steps draft fun _ _ _ _ => trivial).standsOn stands above

/-! ## (5) Texts -/

theorem opensBlock_within (line : Line) (lines : List Line) :
    opensBlock true line lines = opensBlock true line [] := by
  simp only [opensBlock, opensUnmarked, Bool.not_true, Bool.false_and]

/-- Lines that open no block continue a paragraph. -/
theorem readFrom_append_of_text {more : List Line}
    (text : ∀ line ∈ more, opensBlock true line [] = false) (steps : Nat) (behind : List Line)
    (before : List Line) (definitions : List Definition) :
    readFrom nesting {} (more.length + steps) (more ++ behind)
        ⟨.paragraph before :: base, definitions⟩ =
      readFrom nesting {} steps behind ⟨.paragraph (before ++ more) :: base, definitions⟩ := by
  induction more generalizing before with
  | nil => rw [List.length_nil, Nat.zero_add, List.nil_append, List.append_nil]
  | cons line more ih =>
      obtain ⟨hline, hmore⟩ := List.forall_mem_cons.mp text
      have hsteps : (line :: more).length + steps = (more.length + steps) + 1 := by
        rw [List.length_cons]
        omega
      rw [hsteps, List.cons_append, readFrom_cons]
      rcases readBlock_cases nesting line (more ++ behind)
        ⟨.paragraph before :: base, definitions⟩ with ⟨-, h⟩ | ⟨h, -⟩
      · rw [h]
        have hmove : before ++ line :: more = (before ++ [line]) ++ more := by simp
        rw [hmove]
        exact ih hmore (before ++ [line])
      · rw [Draft.inParagraph, opensBlock_within, hline] at h
        cases h

/-- Only one block stands directly on others. -/
theorem block_eq_of_append {newer other : List Block} {block found : Block}
    (h : newer ++ block :: base = other ++ found :: base) : block = found := by
  rw [List.append_cons newer, List.append_cons other] at h
  exact List.singleton_inj.mp (List.append_inj_right' (List.append_cancel_right h) rfl)

/-- A line within a paragraph that opens a block either ends the paragraph or makes a heading of
it. -/
theorem standsOn_of_opened {before : List Line} {definitions : List Definition} {lines : List Line}
    {result : Draft × List Line}
    (opened : Opened ⟨.paragraph before :: base, definitions⟩ lines result)
    (same : result.1.extras = Draft.extras ⟨.paragraph before :: base, definitions⟩) :
    result.1.StandsOn (.paragraph before :: base) ∨
      ∃ depth, result.1.StandsOn (.heading depth (unlines before) :: base) := by
  cases opened with
  | heading depth content h =>
      left
      rw [h]
      exact ⟨[.heading depth content], rfl, fun h => by cases h⟩
  | underline depth within h =>
      right
      rw [h]
      exact ⟨depth, [], rfl, fun _ => rfl⟩
  | blank h =>
      left
      rw [h]
      exact ⟨[.blank], rfl, fun h => by cases h⟩
  | extra more => omega

/-- If all lines are found in the paragraph before them, then none of them opens a block. -/
theorem text_of_readFrom {more : List Line} (before : List Line) (definitions : List Definition)
    (behind : List Line) {steps : Nat} (enough : more.length ≤ steps)
    (same : (readFrom nesting {} steps (more ++ behind)
      ⟨.paragraph before :: base, definitions⟩).extras =
        Draft.extras ⟨.paragraph before :: base, definitions⟩)
    (kept : ∃ newer, (readFrom nesting {} steps (more ++ behind)
      ⟨.paragraph before :: base, definitions⟩).blocks =
        newer ++ .paragraph (before ++ more) :: base) :
    ∀ line ∈ more, opensBlock true line [] = false := by
  induction more generalizing before steps with
  | nil => exact fun line h => absurd h List.not_mem_nil
  | cons line more ih =>
      -- there is a step for every line
      obtain ⟨steps, rfl⟩ : ∃ fewer, steps = fewer + 1 :=
        ⟨steps - 1, by rw [List.length_cons] at enough; omega⟩
      rw [List.cons_append] at same kept
      obtain ⟨hfirst, hrest⟩ := extras_readFrom_cons same
      rw [readFrom_cons] at kept
      rcases readBlock_cases nesting line (more ++ behind)
        ⟨.paragraph before :: base, definitions⟩ with ⟨hopens, h⟩ | ⟨-, opened⟩
      · rw [h] at hrest kept
        rw [Draft.inParagraph, opensBlock_within] at hopens
        refine List.forall_mem_cons.mpr ⟨hopens, ih (before ++ [line]) ?_ hrest ?_⟩
        · exact Nat.le_of_succ_le_succ enough
        · rw [List.append_assoc]
          exact kept
      · -- otherwise the paragraph stays without the line, or becomes a heading
        exfalso
        obtain ⟨newer, hkept⟩ := kept
        rcases standsOn_of_opened opened hfirst with stands | ⟨depth, stands⟩
        · obtain ⟨other, hother, -⟩ := standsOn_readFrom stands steps _ hrest
          have hlines := Block.paragraph.inj (block_eq_of_append (hother.symm.trans hkept))
          have hlength := congrArg List.length hlines
          rw [List.length_append, List.length_cons] at hlength
          omega
        · obtain ⟨other, hother, -⟩ := standsOn_readFrom stands steps _ hrest
          cases block_eq_of_append (hother.symm.trans hkept)

/-- A line outside a paragraph that opens a block begins no paragraph. -/
theorem standsOn_of_opened_outside {definitions : List Definition} {lines : List Line}
    {result : Draft × List Line} (opened : Opened ⟨base, definitions⟩ lines result)
    (outside : Draft.inParagraph ⟨base, definitions⟩ = false)
    (same : result.1.extras = Draft.extras ⟨base, definitions⟩) :
    ∃ block, (∀ text, block ≠ .paragraph text) ∧ result.1.StandsOn (block :: base) := by
  cases opened with
  | heading depth content h =>
      rw [h]
      exact ⟨.heading depth content, fun _ => Block.noConfusion, [], rfl, fun _ => rfl⟩
  | underline depth within h =>
      rw [outside] at within
      cases within
  | blank h =>
      rw [h]
      exact ⟨.blank, fun _ => Block.noConfusion, [], rfl, fun _ => rfl⟩
  | extra more => omega

/-- If all lines are found in one paragraph, then none of them opens a block. -/
theorem text_stays_of_readFrom {first : Line} {more behind : List Line} {steps : Nat}
    (enough : (first :: more).length ≤ steps) {definitions : List Definition}
    (outside : Draft.inParagraph ⟨base, definitions⟩ = false)
    (same : (readFrom nesting {} steps (first :: (more ++ behind)) ⟨base, definitions⟩).extras =
      Draft.extras ⟨base, definitions⟩)
    (kept : ∃ newer, (readFrom nesting {} steps (first :: (more ++ behind))
      ⟨base, definitions⟩).blocks = newer ++ .paragraph (first :: more) :: base) :
    opensBlock false first (more ++ behind) = false ∧
      ∀ line ∈ more, opensBlock true line [] = false := by
  obtain ⟨steps, rfl⟩ : ∃ fewer, steps = fewer + 1 :=
    ⟨steps - 1, by rw [List.length_cons] at enough; omega⟩
  obtain ⟨hfirst, hrest⟩ := extras_readFrom_cons same
  rw [readFrom_cons] at kept
  rcases readBlock_cases nesting first (more ++ behind)
    ⟨base, definitions⟩ with ⟨hopens, h⟩ | ⟨-, opened⟩
  · rw [Draft.addLine_of_outside outside] at h
    rw [h] at hrest kept
    rw [outside] at hopens
    exact ⟨hopens, text_of_readFrom [first] definitions behind (Nat.le_of_succ_le_succ enough)
      hrest kept⟩
  · -- otherwise another block stands where the text should
    exfalso
    obtain ⟨newer, hkept⟩ := kept
    obtain ⟨block, hother, stands⟩ := standsOn_of_opened_outside opened outside hfirst
    obtain ⟨other, hblocks, -⟩ := standsOn_readFrom stands steps _ hrest
    exact hother _ (block_eq_of_append (hblocks.symm.trans hkept))

/-! ## (6) Parts -/

namespace Part

/-- A part whose lines open no other block is read as its block. -/
theorem readFrom_of_stays {part : Part} (begins : part.Begins) {behind : List Line}
    (stays : part.Stays behind) (steps : Nat) {definitions : List Definition}
    (outside : Draft.inParagraph ⟨base, definitions⟩ = false) :
    readFrom nesting {} (part.lines.length + steps) (part.lines ++ behind) ⟨base, definitions⟩ =
      readFrom nesting {} steps behind ⟨part.block :: base, definitions⟩ := by
  cases part with
  | heading line depth content =>
      obtain ⟨hfence, hindented, hheading⟩ := begins.reads line depth content rfl
      have hread : readBlock nesting {} line behind ⟨base, definitions⟩ =
          (⟨.heading depth content :: base, definitions⟩, behind) := by
        simp only [readBlock, hfence, hindented, hheading, Bool.false_eq_true, if_false]
        rfl
      rw [lines, first, more, List.length_singleton, Nat.add_comm, List.singleton_append,
        readFrom_cons, hread]
      rfl
  | text first more =>
      -- the first line begins the paragraph, the others continue it
      obtain ⟨hfirst, hmore⟩ := stays
      have hsteps : (text first more).lines.length + steps = (more.length + steps) + 1 := by
        rw [lines, List.length_cons]
        exact Nat.add_right_comm ..
      rw [hsteps, lines, List.cons_append, readFrom_cons]
      rcases readBlock_cases nesting first (more ++ behind) ⟨base, definitions⟩ with ⟨-, h⟩ | ⟨h, -⟩
      · rw [Draft.addLine_of_outside outside] at h
        have hread := congrArg (fun result => readFrom nesting {} (more.length + steps) result.2
          result.1) h
        exact hread.trans (readFrom_append_of_text hmore steps behind [first] definitions)
      · rw [outside, hfirst] at h
        cases h

/-- A part that is found as its block has no line that opens another one. -/
theorem stays_of_readFrom {part : Part} {behind : List Line} {steps : Nat}
    (enough : part.lines.length ≤ steps) {definitions : List Definition}
    (outside : Draft.inParagraph ⟨base, definitions⟩ = false)
    (same : (readFrom nesting {} steps (part.lines ++ behind) ⟨base, definitions⟩).extras =
      Draft.extras ⟨base, definitions⟩)
    (kept : ∃ newer, (readFrom nesting {} steps (part.lines ++ behind) ⟨base, definitions⟩).blocks =
      newer ++ part.block :: base) :
    part.Stays behind := by
  cases part with
  | heading line depth content => trivial
  | text first more =>
      rw [lines_text] at enough same kept
      exact text_stays_of_readFrom enough outside same kept

/-! ## (7) Documents -/

/-- A run of blank lines is read at its first line. -/
theorem readBlock_nil (nesting : Nesting) (lines : List Line) (draft : Draft) :
    readBlock nesting {} [] lines draft = readBlank lines draft :=
  (readBlock_of_unmarked nesting _ rfl rfl rfl (Bool.and_false _)).trans rfl

/-- A blank line ends a part, and the next part begins on the next line. -/
theorem readBlock_blank (nesting : Nesting) {part : Part} (begins : part.Begins)
    (behind : List Line) (draft : Draft) :
    readBlock nesting {} [] (part.lines ++ behind) draft =
      (draft.push .blank, part.lines ++ behind) := by
  have hrest : (part.lines ++ behind).dropWhile Line.isBlank = part.lines ++ behind := by
    rw [lines, List.cons_append, List.dropWhile_cons, begins.seen]
    rfl
  rw [readBlock_nil, readBlank, hrest]

/-- The blocks of parts add no extras. -/
theorem extras_blocksBehind (parts : List Part) (definitions : List Definition) :
    Draft.extras ⟨(blocksBehind parts).reverse ++ base, definitions⟩ =
      Draft.extras ⟨base, definitions⟩ := by
  induction parts generalizing base with
  | nil => rfl
  | cons part parts ih =>
      have hblocks : (blocksBehind (part :: parts)).reverse ++ base =
          (blocksBehind parts).reverse ++ part.block :: .blank :: base := by
        simp [blocksBehind]
      rw [hblocks, ih]
      exact (Draft.extras_push_plain ⟨.blank :: base, definitions⟩ part.isPlain_block).trans
        (Draft.extras_push_plain ⟨base, definitions⟩ rfl)

/-- A part and those behind it are read as their blocks exactly if the part is read as its block,
and then those behind it as theirs. -/
theorem readFrom_part_iff {part : Part} (begins : part.Begins) {parts : List Part}
    (next : ∀ {steps}, (behind parts).length ≤ steps →
      (readFrom nesting {} steps (behind parts) ⟨part.block :: base, []⟩ =
        ⟨(blocksBehind parts).reverse ++ part.block :: base, []⟩ ↔ AllStay parts))
    {steps : Nat} (enough : part.lines.length + (behind parts).length ≤ steps)
    (outside : Draft.inParagraph ⟨base, []⟩ = false) :
    readFrom nesting {} steps (part.lines ++ behind parts) ⟨base, []⟩ =
        ⟨(blocksBehind parts).reverse ++ part.block :: base, []⟩ ↔
      part.Stays (behind parts) ∧ AllStay parts := by
  obtain ⟨rest, rfl⟩ := Nat.exists_eq_add_of_le (Nat.le_trans (Nat.le_add_right _ _) enough)
  have hrest : (behind parts).length ≤ rest := Nat.le_of_add_le_add_left enough
  constructor
  -- what is read behind the part does not change what it was read as
  · intro hread
    have same := congrArg Draft.extras hread
    rw [extras_blocksBehind] at same
    have stays : part.Stays (behind parts) := by
      refine stays_of_readFrom (Nat.le_add_right _ _) outside (same.trans ?_)
        ⟨(blocksBehind parts).reverse, by rw [hread]⟩
      exact Draft.extras_push_plain ⟨base, []⟩ part.isPlain_block
    rw [readFrom_of_stays begins stays rest outside] at hread
    exact ⟨stays, (next hrest).mp hread⟩
  · rintro ⟨stays, allStay⟩
    rw [readFrom_of_stays begins stays rest outside]
    exact (next hrest).mpr allStay

/-- Parts behind a block are read as their blocks exactly if no line of a text opens a block. -/
theorem readFrom_behind_iff (parts : List Part) (begins : ∀ part ∈ parts, part.Begins)
    {steps : Nat} (enough : (behind parts).length ≤ steps) :
    readFrom nesting {} steps (behind parts) ⟨base, []⟩ =
        ⟨(blocksBehind parts).reverse ++ base, []⟩ ↔
      AllStay parts := by
  induction parts generalizing steps base with
  | nil => cases steps <;> simp [behind, blocksBehind, AllStay, readFrom]
  | cons part parts ih =>
      obtain ⟨hpart, hparts⟩ := List.forall_mem_cons.mp begins
      obtain ⟨steps, rfl⟩ : ∃ fewer, steps = fewer + 1 :=
        ⟨steps - 1, by rw [behind, List.length_cons] at enough; omega⟩
      have hblocks : (blocksBehind (part :: parts)).reverse ++ base =
          (blocksBehind parts).reverse ++ part.block :: .blank :: base := by
        simp [blocksBehind]
      rw [behind, List.length_cons, List.length_append] at enough
      rw [behind, readFrom_cons, readBlock_blank nesting hpart, AllStay, hblocks, Draft.push]
      exact readFrom_part_iff hpart (ih hparts) (Nat.le_of_succ_le_succ enough) rfl

/-- A document is read as its blocks, without any definitions, exactly if no line of a text opens a
block. -/
theorem readLines_eq_iff (levels depth : Nat) (parts : List Part)
    (begins : ∀ part ∈ parts, part.Begins) :
    readLines (levels + 1) depth {} (linesOf parts) = ⟨(blocksOf parts).reverse, []⟩ ↔
      AllStay parts := by
  cases parts with
  | nil => exact iff_of_true rfl trivial
  | cons part parts =>
      obtain ⟨hpart, hparts⟩ := List.forall_mem_cons.mp begins
      rw [readLines, linesOf, blocksOf, List.reverse_cons, AllStay]
      exact readFrom_part_iff hpart (readFrom_behind_iff parts hparts)
        (Nat.le_of_eq List.length_append.symm) rfl

/-- The heading with which a document begins is its first block if another part follows, whatever
the texts behind it open. -/
theorem exists_blocks_readLines (levels outer : Nat) {line : Line} {depth : Nat} {content : Text}
    (begins : (heading line depth content).Begins) (next : Part) (parts : List Part) :
    ∃ newer, (readLines (levels + 1) outer {}
      (linesOf (heading line depth content :: next :: parts))).blocks =
        newer ++ [.heading depth content] := by
  have stays : (heading line depth content).Stays (behind (next :: parts)) := trivial
  rw [readLines, linesOf, List.length_append, readFrom_of_stays begins stays _ rfl, behind,
    List.length_cons, readFrom_cons, readBlock_nil]
  -- the blank line behind the heading stands above it, whatever is read from there on
  have stands : Draft.StandsOn [.heading depth content]
      (readBlank (next.lines ++ behind parts) ⟨[.heading depth content], []⟩).1 :=
    ⟨[.blank], rfl, fun h => by cases h⟩
  obtain ⟨newer, hblocks, -⟩ := standsOn_readFrom_of_above stands (Nat.lt_succ_self 1) _ _
  exact ⟨newer, hblocks⟩

end Part

end Coursework.Markdown
