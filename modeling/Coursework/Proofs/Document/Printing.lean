import Coursework.Proofs.Document.Composition
import Coursework.Proofs.Document.Content
import Coursework.Proofs.Document.Items
import Coursework.Proofs.Document.Shape
import Coursework.Proofs.Text.Words

/-! # Printed tokens

Headings, paragraphs, lists and code are printed as markdown with a blank line between each two,
and read back as the same tokens and space.

* **`Token.print`** and **`Token.printAll`** print.
* **`Token.Printable`** is the condition on a token, **`Token.Apart`** the one on neighbours: two
  lists of one kind would be read as one.
* **`Token.ofMarkdown_printAll`** is the main statement. -/

namespace Coursework

open Markdown Outline

namespace Token

/-! ## (1) Printing -/

/-- A token as markdown. -/
def print : Token → Text
  | heading depth content => List.replicate depth Sign.hash ++ Sign.space :: content
  | paragraph content => content
  | list ordered items => Text.joinWith [Sign.newline] (items.map (listLine ordered))
  | code content => fenceLine ++ Sign.newline :: (content ++ Sign.newline :: fenceLine)
  | space | unknown _ | foreign _ => []

/-- Tokens as markdown, with a blank line between each two. -/
def printAll (tokens : List Token) : Text :=
  Text.joinWith [Sign.newline, Sign.newline] (tokens.map print)

/-- A token can be printed: its texts are literal, a heading ends with no number sign, a list has
items, and no line of code begins with a fence. -/
def Printable : Token → Prop
  | heading depth content =>
    1 ≤ depth ∧ depth ≤ 6 ∧ Literal content ∧ content.getLast? ≠ some Sign.hash
  | paragraph content => Literal content
  | list _ items => items ≠ [] ∧ ∀ item ∈ items, Literal item
  | code content =>
    Sign.carriageReturn ∉ content ∧ content.getLast? ≠ some Sign.newline ∧
      ∀ line ∈ content.lines, line.stripStart.startsWith fenceLine = false
  | space | unknown _ | foreign _ => False

instance : (token : Token) → Decidable token.Printable
  | heading _ _ => inferInstanceAs (Decidable (_ ∧ _ ∧ _ ∧ _))
  | paragraph content => inferInstanceAs (Decidable (Literal content))
  | list _ _ => inferInstanceAs (Decidable (_ ∧ _))
  | code _ => inferInstanceAs (Decidable (_ ∧ _ ∧ _))
  | space | unknown _ | foreign _ => inferInstanceAs (Decidable False)

/-- Whether two tokens are lists of the same kind. -/
def alike : Token → Token → Bool
  | list first _, list second _ => first == second
  | _, _ => false

/-- Neighbours that are not read as one list. -/
def Apart (first second : Token) : Prop := alike first second = false

instance (first second : Token) : Decidable (Apart first second) :=
  inferInstanceAs (Decidable (_ = _))

/-! ## (2) Lines -/

/-- The lines of a printed token. -/
def printedLines : Token → List Line
  | heading depth content => [List.replicate depth Sign.hash ++ Sign.space :: content]
  | paragraph content => [content]
  | list ordered items => items.map (listLine ordered)
  | code content => fenceLine :: (content.lines ++ [fenceLine])
  | space | unknown _ | foreign _ => [[]]

/-- The lines of printed tokens behind another, a blank one before each. -/
def linesBehind (tokens : List Token) : List Line := tokens.flatMap ([] :: ·.printedLines)

variable {token : Token}

/-- A printed token is trimmed and shows something. -/
theorem Printable.trimmed_print (printable : token.Printable) :
    token.print ≠ [] ∧ token.print.Trimmed := by
  have marked {mark content : Text} (shown : mark ≠ []) (trimmed : mark.Trimmed)
      (literal : Literal content) : mark ++ Sign.space :: content ≠ [] ∧
        Text.Trimmed (mark ++ Sign.space :: content) := by
    have whole := trimmed.append literal.trimmed shown literal.shown [Sign.space]
    rw [List.append_assoc, List.singleton_append] at whole
    exact ⟨List.append_ne_nil_of_left_ne_nil shown _, whole⟩
  cases token with
  | heading depth content =>
      obtain ⟨least, -, literal, -⟩ := printable
      obtain ⟨count, rfl⟩ := Nat.exists_eq_add_of_le' least
      refine marked (List.cons_ne_nil _ _) ⟨fun sign h => ?_, fun sign h => ?_⟩ literal
      · rw [List.eq_of_mem_replicate (List.mem_of_mem_head? h)]
        decide
      · rw [List.eq_of_mem_replicate (List.mem_of_getLast? h)]
        decide
  | paragraph content => exact ⟨printable.shown, printable.trimmed⟩
  | list ordered items =>
      refine Text.trimmed_joinWith _ (mt List.map_eq_nil_iff.mp printable.1) fun line h => ?_
      obtain ⟨item, hitem, rfl⟩ := List.mem_map.mp h
      have literal := printable.2 item hitem
      cases ordered
      · exact marked (List.cons_ne_nil Sign.hyphen []) (by decide) literal
      · exact marked (List.cons_ne_nil 49 [Sign.fullStop]) (by decide) literal
  | code content =>
      have fence : Text.Trimmed fenceLine := by decide
      have whole := fence.append fence (List.cons_ne_nil _ _) (List.cons_ne_nil _ _)
        (Sign.newline :: (content ++ [Sign.newline]))
      rw [print]
      refine ⟨List.cons_ne_nil _ _, ?_⟩
      simpa using whole
  | space | unknown _ | foreign _ => exact printable.elim

/-- The line of an item has the signs of its mark and its text. -/
theorem not_mem_listLine {sign : Nat} (mark : sign ∉ ([49, 46, 45, 32] : Text)) {item : Text}
    (absent : sign ∉ item) (ordered : Bool) : sign ∉ listLine ordered item := by
  simp only [List.mem_cons, List.not_mem_nil, or_false, not_or] at mark
  obtain ⟨one, stop, hyphen, space⟩ := mark
  cases ordered <;> simp [listLine, Text.ofString, one, stop, hyphen, space, absent]

/-- The lines of a printed token are read from its text. -/
theorem Printable.lines_print (printable : token.Printable) :
    token.print.unixLines.lines = token.printedLines := by
  cases token with
  | heading depth content =>
      obtain ⟨-, -, literal, -⟩ := printable
      refine lines_headingPart depth fun sign h => ⟨(literal.inert sign h).2, ?_⟩
      rintro rfl
      exact literal.return_not_mem h
  | paragraph content =>
      rw [print, Text.unixLines_of_not_mem printable.return_not_mem]
      exact Text.splitAt_of_not_mem printable.newline_not_mem
  | list ordered items =>
      have absent {sign : Nat} (mark : sign ∉ ([49, 46, 45, 32] : Text))
          (literal : ∀ item ∈ items, sign ∉ item) :
          ∀ line ∈ items.map (listLine ordered), sign ∉ line := fun line h => by
        obtain ⟨item, hitem, rfl⟩ := List.mem_map.mp h
        exact not_mem_listLine mark (literal item hitem) ordered
      have return_ : Sign.carriageReturn ∉ print (list ordered items) := fun h => by
        rcases Text.mem_joinWith h with h | ⟨line, hline, h⟩
        · cases List.mem_singleton.mp h
        · exact absent (by decide) (fun item h => (printable.2 item h).return_not_mem) line hline h
      rw [Text.unixLines_of_not_mem return_]
      exact Text.splitAt_joinWith (mt List.map_eq_nil_iff.mp printable.1)
        (absent (by decide) fun item h => (printable.2 item h).newline_not_mem)
  | code content =>
      have fence : Text.lines fenceLine = [fenceLine] := rfl
      have return_ : Sign.carriageReturn ∉ print (code content) := by
        obtain ⟨hfence, hnewline⟩ : Sign.carriageReturn ∉ fenceLine ∧
            Sign.carriageReturn ≠ Sign.newline := by decide
        simp [print, printable.1, hfence, hnewline]
      rw [Text.unixLines_of_not_mem return_, print, Text.lines_append, Text.lines_append, fence]
      rfl
  | space | unknown _ | foreign _ => exact printable.elim

theorem trimmed_map_print {tokens : List Token}
    (printable : ∀ token ∈ tokens, token.Printable) :
    ∀ piece ∈ tokens.map print, piece ≠ [] ∧ piece.Trimmed := by
  intro piece member
  obtain ⟨token, htoken, rfl⟩ := List.mem_map.mp member
  exact (printable token htoken).trimmed_print

theorem trimmed_printAll {tokens : List Token} (some : tokens ≠ [])
    (printable : ∀ token ∈ tokens, token.Printable) :
    printAll tokens ≠ [] ∧ (printAll tokens).Trimmed :=
  Text.trimmed_joinWith _ (mt List.map_eq_nil_iff.mp some) (trimmed_map_print printable)

/-- The lines of printed tokens are those of the first and, behind it, those of the others. -/
theorem linesOf_printAll {tokens : List Token} (first : token.Printable)
    (others : ∀ other ∈ tokens, other.Printable) :
    linesOf (printAll (token :: tokens)) = token.printedLines ++ linesBehind tokens := by
  have trimmed := trimmed_map_print (List.forall_mem_cons.mpr ⟨first, others⟩)
  rw [printAll, List.map_cons, linesOf_joinWith_blank trimmed, first.lines_print, List.flatMap_map,
    linesBehind]
  refine congrArg (token.printedLines ++ ·) (List.flatMap_congr fun other h => ?_)
  rw [(others other h).lines_print]

/-! ## (3) Blocks -/

/-- The block that a printed token is read as. -/
def block : Token → Block
  | heading depth content => .heading depth content
  | paragraph content => .paragraph [content]
  | list ordered items => .list ordered (items.map Item.ofText)
  | code content => .code content
  | space | unknown _ | foreign _ => .blank

theorem Printable.filter_block (printable : token.Printable) :
    [token.block].filter (· != .blank) = [token.block] := by
  cases token with
  | heading _ _ | paragraph _ | list _ _ | code _ => rfl
  | space | unknown _ | foreign _ => exact printable.elim

/-- The block of a printed token has no links. -/
theorem Printable.isMarkup_sources (printable : token.Printable) :
    Signs (Inline.isMarkup · = false) token.block.sources := by
  cases token with
  | heading depth content =>
      exact signs_cons.mpr ⟨printable.2.2.1.isMarkup_eq_false, signs_nil⟩
  | paragraph content => exact signs_cons.mpr ⟨printable.isMarkup_eq_false, signs_nil⟩
  | list ordered items =>
      intro text member
      obtain ⟨_, listed, htext⟩ := List.mem_flatMap.mp member
      obtain ⟨item, hitem, rfl⟩ := List.mem_map.mp listed
      rw [List.mem_singleton.mp htext]
      exact (printable.2 item hitem).isMarkup_eq_false
  | code content => exact signs_nil
  | space | unknown _ | foreign _ => exact printable.elim

/-- The block of a printed token shows the token. -/
theorem Printable.ofBlock_block (printable : token.Printable) :
    Token.ofBlock [] token.block = token := by
  cases token with
  | heading depth content => rw [block, Token.ofBlock, printable.2.2.1.visible]
  | paragraph content =>
      have single : unlines [content] = content := rfl
      rw [block, Token.ofBlock, single, printable.visible]
  | list ordered items =>
      have shown : ∀ item ∈ items,
          unlines ((Item.ofText item).paragraphs.map (Inline.visible [])) = item :=
        fun item h => (printable.2 item h).visible []
      rw [block, Token.ofBlock, List.map_map]
      exact congrArg _ ((List.map_congr_left shown).trans (List.map_id' items))
  | code content => rfl
  | space | unknown _ | foreign _ => exact printable.elim

variable (nesting : Nesting)

/-- A printed token other than a list is read in one step. -/
theorem Printable.exists_readBlock (printable : token.Printable)
    (other : ∀ ordered items, token ≠ list ordered items) :
    ∃ first more, token.printedLines = first :: more ∧ ∀ behind draft,
      draft.inParagraph = false →
        readBlock nesting {} first (more ++ behind) draft = (draft.push token.block, behind) := by
  cases token with
  | heading depth content =>
      refine ⟨_, [], rfl, fun behind draft _ => ?_⟩
      have hheading := heading?_of_literal printable.1 printable.2.1 printable.2.2.1 printable.2.2.2
      obtain ⟨count, rfl⟩ := Nat.exists_eq_add_of_le' printable.1
      exact readBlock_heading nesting hheading behind draft
  | paragraph content =>
      refine ⟨content, [], rfl, fun behind draft outside => ?_⟩
      rcases readBlock_cases nesting content behind draft with ⟨-, h⟩ | ⟨h, -⟩
      · exact h.trans (by rw [Draft.addLine_of_outside outside]; rfl)
      · rw [opensBlock_of_settled printable.settled] at h
        cases h
  | list ordered items => exact absurd rfl (other ordered items)
  | code content =>
      refine ⟨fenceLine, content.lines ++ [fenceLine], rfl, fun behind draft _ => ?_⟩
      rw [List.append_assoc, List.singleton_append, readBlock_fence,
        readFence_code printable.2.1 printable.2.2]
      rfl
  | space | unknown _ | foreign _ => exact printable.elim

/-! ## (4) Neighbours -/

/-- The blank line before a printed token is no part of it. -/
theorem Printable.readFrom_blank (printable : token.Printable) (steps : Nat) (behind : List Line)
    (draft : Draft) :
    readFrom nesting {} (steps + 1) ([] :: (token.printedLines ++ behind)) draft =
      readFrom nesting {} steps (token.printedLines ++ behind) (draft.push .blank) := by
  obtain ⟨first, more, hlines, seen⟩ :
      ∃ first more, token.printedLines = first :: more ∧ first.isBlank = false := by
    cases token with
    | heading depth content =>
        obtain ⟨count, rfl⟩ := Nat.exists_eq_add_of_le' printable.1
        exact ⟨_, [], rfl, rfl⟩
    | paragraph content =>
        obtain ⟨sign, rest, rfl, solid, -⟩ := printable.settled.begins
        exact ⟨sign :: rest, [], rfl, isBlank_cons_of_solid solid rest⟩
    | list ordered items =>
        obtain ⟨item, items, rfl⟩ := List.exists_cons_of_ne_nil printable.1
        refine ⟨listLine ordered item, items.map (listLine ordered), rfl, ?_⟩
        cases ordered <;> rfl
    | code content => exact ⟨fenceLine, _, rfl, rfl⟩
    | space | unknown _ | foreign _ => exact printable.elim
  have begins : (Part.text first more).Begins := ⟨seen, fun _ _ _ h => by cases h⟩
  rw [hlines, readFrom_cons]
  exact congrArg (fun result => readFrom nesting {} steps result.2 result.1)
    (Part.readBlock_blank nesting begins behind draft)

/-- A list ends before its neighbour. -/
theorem Printable.endsAt (printable : token.Printable) {ordered : Bool} {items : List Text}
    (apart : Apart (list ordered items) token) (behind : List Line) :
    ∃ first more, token.printedLines = first :: more ∧
      EndsAt nesting ordered first (more ++ behind) := by
  cases token with
  | heading depth content =>
      have hheading := heading?_of_literal printable.1 printable.2.1 printable.2.2.1 printable.2.2.2
      obtain ⟨count, rfl⟩ := Nat.exists_eq_add_of_le' printable.1
      exact ⟨_, [], rfl, endsAt_heading nesting ordered hheading behind⟩
  | paragraph content =>
      exact ⟨content, [], rfl, endsAt_of_settled nesting printable.settled behind⟩
  | list other others =>
      obtain ⟨item, others, rfl⟩ := List.exists_cons_of_ne_nil printable.1
      have different : other = !ordered := by
        cases ordered <;> cases other <;> first | rfl | cases apart
      subst different
      have settled := (printable.2 item List.mem_cons_self).settled
      exact ⟨_, _, rfl, endsAt_other nesting ordered settled _⟩
  | code content => exact ⟨fenceLine, _, rfl, endsAt_fence nesting ordered _⟩
  | space | unknown _ | foreign _ => exact printable.elim

variable {nesting} {base : List Block} {steps : Nat}

/-- The last printed token is read as its block. -/
theorem Printable.readFrom_last (printable : token.Printable) (text : nesting.ReadsText)
    (outside : Draft.inParagraph ⟨base, []⟩ = false)
    (enough : token.printedLines.length ≤ steps) :
    readFrom nesting {} steps token.printedLines ⟨base, []⟩ = ⟨token.block :: base, []⟩ := by
  obtain ⟨first, more, hlines, hread⟩ : ∃ first more, token.printedLines = first :: more ∧
      readBlock nesting {} first more ⟨base, []⟩ = (⟨token.block :: base, []⟩, []) := by
    by_cases listed : ∃ ordered items, token = list ordered items
    · obtain ⟨ordered, items, rfl⟩ := listed
      obtain ⟨item, items, rfl⟩ := List.exists_cons_of_ne_nil printable.1
      have settled (other : Text) (h : other ∈ item :: items) := (printable.2 other h).settled
      exact ⟨_, _, rfl, readBlock_list_end text settled outside⟩
    · have other (ordered : Bool) (items : List Text) : token ≠ list ordered items :=
        fun h => listed ⟨ordered, items, h⟩
      obtain ⟨first, more, hlines, hread⟩ := printable.exists_readBlock nesting other
      have hlast := hread [] ⟨base, []⟩ outside
      rw [List.append_nil] at hlast
      exact ⟨first, more, hlines, hlast⟩
  rw [hlines, List.length_cons] at enough
  obtain ⟨steps, rfl⟩ := Nat.exists_eq_add_of_le' (Nat.le_trans (Nat.le_add_left 1 _) enough)
  rw [hlines, readFrom_cons, hread]
  cases steps <;> rfl

/-- A printed token is read as its block, and reading goes on with its neighbour. -/
theorem Printable.exists_readFrom_next {next : Token} (printable : token.Printable)
    (printableNext : next.Printable) (apart : Apart token next) (text : nesting.ReadsText)
    (outside : Draft.inParagraph ⟨base, []⟩ = false) {behind : List Line}
    (enough : (token.printedLines ++ [] :: (next.printedLines ++ behind)).length ≤ steps) :
    ∃ left blanks, (next.printedLines ++ behind).length ≤ left ∧
      (∀ block ∈ blanks, block = Block.blank) ∧
      Draft.inParagraph ⟨blanks ++ token.block :: base, []⟩ = false ∧
      readFrom nesting {} steps (token.printedLines ++ [] :: (next.printedLines ++ behind))
          ⟨base, []⟩ =
        readFrom nesting {} left (next.printedLines ++ behind)
          ⟨blanks ++ token.block :: base, []⟩ := by
  by_cases listed : ∃ ordered items, token = list ordered items
  -- a list takes the blank line behind it
  · obtain ⟨ordered, items, rfl⟩ := listed
    obtain ⟨item, items, rfl⟩ := List.exists_cons_of_ne_nil printable.1
    have settled (other : Text) (h : other ∈ item :: items) := (printable.2 other h).settled
    obtain ⟨first, more, hlines, endsAt⟩ :=
      printableNext.endsAt nesting apart behind
    obtain ⟨steps, rfl⟩ : ∃ fewer, steps = fewer + 1 := ⟨steps - 1, by
      rw [printedLines, List.map_cons, List.cons_append, List.length_cons] at enough
      omega⟩
    obtain ⟨left, most, hread⟩ := exists_readFrom_list endsAt text settled outside steps
    refine ⟨left, [], ?_, fun _ h => absurd h List.not_mem_nil, rfl, ?_⟩
    · rw [printedLines, List.length_append, List.length_cons, List.length_map,
        List.length_cons] at enough
      omega
    · rw [hlines]
      exact hread
  -- any other token leaves it
  · have other (ordered : Bool) (items : List Text) : token ≠ list ordered items :=
      fun h => listed ⟨ordered, items, h⟩
    obtain ⟨first, more, hlines, hread⟩ := printable.exists_readBlock nesting other
    rw [hlines, List.length_append, List.length_cons, List.length_cons] at enough
    obtain ⟨left, rfl⟩ : ∃ left, steps = left + 2 := ⟨steps - 2, by omega⟩
    refine ⟨left, [.blank], by omega, fun _ h => List.mem_singleton.mp h, rfl, ?_⟩
    rw [hlines, List.cons_append, readFrom_cons, hread _ _ outside]
    exact printableNext.readFrom_blank nesting left behind _

/-- **Printed tokens are read as their blocks** and blank ones. -/
theorem exists_readFrom_printed (text : nesting.ReadsText) {tokens : List Token}
    (printable : ∀ other ∈ token :: tokens, other.Printable)
    (apart : (token :: tokens).IsChain Apart) (outside : Draft.inParagraph ⟨base, []⟩ = false)
    (enough : (token.printedLines ++ linesBehind tokens).length ≤ steps) :
    ∃ newer, readFrom nesting {} steps (token.printedLines ++ linesBehind tokens) ⟨base, []⟩ =
        ⟨newer ++ base, []⟩ ∧
      newer.filter (· != .blank) = ((token :: tokens).map block).reverse := by
  induction tokens generalizing token base steps with
  | nil =>
      have own := printable token List.mem_cons_self
      rw [linesBehind, List.flatMap_nil, List.append_nil] at enough ⊢
      exact ⟨[token.block], own.readFrom_last text outside enough, own.filter_block⟩
  | cons next tokens ih =>
      obtain ⟨own, others⟩ := List.forall_mem_cons.mp printable
      have hlines : linesBehind (next :: tokens) =
          [] :: (next.printedLines ++ linesBehind tokens) := List.flatMap_cons
      rw [hlines] at enough ⊢
      obtain ⟨hnext, hrest⟩ := List.isChain_cons_cons.mp apart
      obtain ⟨left, blanks, hleft, hblanks, houtside, hread⟩ := own.exists_readFrom_next
        (others next List.mem_cons_self) hnext text outside enough
      obtain ⟨newer, hnewer, hblocks⟩ := ih others hrest houtside hleft
      have none : blanks.filter (· != .blank) = [] :=
        List.filter_eq_nil_iff.mpr fun block h => by simp [hblanks block h]
      refine ⟨newer ++ blanks ++ [token.block], ?_, ?_⟩
      · rw [hread, hnewer]
        simp
      · rw [List.filter_append, List.filter_append, hblocks, none, List.append_nil,
          own.filter_block]
        exact List.reverse_cons.symm

/-! ## (5) Documents -/

theorem isSpace_ofBlock (labels : List Text) (block : Block) :
    (Token.ofBlock labels block).isSpace = (block == .blank) := by
  cases block <;> rfl

/-- Printed tokens are read back; there are no links among them. -/
theorem filter_ofMarkdown_printAll {tokens : List Token}
    (printable : ∀ token ∈ tokens, token.Printable) (apart : tokens.IsChain Apart) :
    destinations (printAll tokens) = [] ∧
      (ofMarkdown (printAll tokens)).filter (!·.isSpace) = tokens := by
  cases tokens with
  | nil => exact ⟨by decide, rfl⟩
  | cons token tokens =>
      obtain ⟨own, others⟩ := List.forall_mem_cons.mp printable
      have shown := (trimmed_printAll (List.cons_ne_nil _ _) printable).1
      obtain ⟨levels, hlevels⟩ :=
        Nat.exists_eq_succ_of_ne_zero (mt List.length_eq_zero_iff.mp shown)
      have text := readsText_readLines levels (show ¬depthLimit ≤ 0 + 1 by decide)
      obtain ⟨newer, hread, hblocks⟩ := exists_readFrom_printed text printable apart
        (show Draft.inParagraph ⟨[], []⟩ = false from rfl) (Nat.le_refl _)
      have hdraft : Block.ofText (printAll (token :: tokens)) = (newer.reverse, []) := by
        rw [Block.ofText, hlevels, linesOf_printAll own others, readLines, hread, List.append_nil]
      -- what is no space is no blank block
      have voiced : (fun block => !(Token.ofBlock [] block).isSpace) = (· != Block.blank) :=
        funext fun block => by rw [isSpace_ofBlock]; rfl
      have shows : (token :: tokens).map (Token.ofBlock [] ∘ block) = token :: tokens :=
        (List.map_congr_left fun other h => (printable other h).ofBlock_block).trans
          (List.map_id' _)
      constructor
      · refine destinations_eq_nil hdraft fun block member => ?_
        by_cases blank : block = .blank
        · exact blank ▸ signs_nil
        · have own : block ∈ newer.filter (· != .blank) :=
            List.mem_filter.mpr ⟨List.mem_reverse.mp member, bne_iff_ne.mpr blank⟩
          rw [hblocks, List.mem_reverse] at own
          obtain ⟨other, hother, rfl⟩ := List.mem_map.mp own
          exact (printable other hother).isMarkup_sources
      · rw [ofMarkdown, if_neg (mt List.isEmpty_iff.mp shown), hdraft]
        simp only [List.filter_map, Function.comp_def, voiced, List.map_nil]
        rw [List.filter_reverse, hblocks, List.reverse_reverse, List.map_map, shows]

/-- Only a paragraph that begins with a brace looks like JSON. -/
theorem looksLikeJson_printAll {tokens : List Token}
    (printable : ∀ token ∈ tokens, token.Printable)
    (opening : ∀ rest, tokens.head? ≠ some (.paragraph (Sign.leftBrace :: rest))) :
    Content.looksLikeJson (printAll tokens) = false := by
  cases tokens with
  | nil => rfl
  | cons token tokens =>
      have own := printable token List.mem_cons_self
      have trimmed := (trimmed_printAll (List.cons_ne_nil _ _) printable).2
      rw [Content.looksLikeJson, Text.strip_eq_self trimmed, printAll, List.map_cons,
        Text.joinWith_cons]
      generalize List.flatMap _ _ = behind
      cases token with
      | heading depth content =>
          obtain ⟨count, rfl⟩ := Nat.exists_eq_add_of_le' own.1
          rfl
      | paragraph content =>
          obtain ⟨sign, rest, rfl, -, plain⟩ := own.settled.begins
          have brace : sign ≠ Sign.leftBrace := by
            rintro rfl
            exact opening rest rfl
          have backtick : sign ≠ Sign.backtick := by
            rintro rfl
            cases plain
          obtain ⟨more, hjson⟩ : ∃ more, ("```json" : Text) = Sign.backtick :: more := ⟨_, rfl⟩
          simp only [print, List.cons_append, hjson, Text.startsWith,
            beq_eq_false_iff_ne.mpr brace, beq_eq_false_iff_ne.mpr backtick, Bool.false_and,
            Bool.or_self]
      | list ordered items =>
          obtain ⟨item, items, rfl⟩ := List.exists_cons_of_ne_nil own.1
          rw [print, List.map_cons, Text.joinWith_cons]
          cases ordered <;> rfl
      | code content => rfl
      | space | unknown _ | foreign _ => exact own.elim

/-- A printed token shows something. -/
theorem Printable.entries_ne_nil (printable : token.Printable) : token.entries ≠ [] := by
  cases token with
  | heading _ _ | paragraph _ | code _ => exact List.cons_ne_nil _ _
  | list ordered items =>
      obtain ⟨item, items, rfl⟩ := List.exists_cons_of_ne_nil printable.1
      have literal := printable.2 item List.mem_cons_self
      have shown : item.isBlank = false := by
        obtain ⟨sign, rest, rfl, solid, -⟩ := literal.settled.begins
        rw [Text.isBlank, List.all_cons, solid, Bool.false_and]
      rw [entries, lines, itemLines, shown]
      exact List.cons_ne_nil _ _
  | space | unknown _ | foreign _ => exact printable.elim

end Token

/-- Tokens with a form that are compiled alike and show something make one document, whatever
their source. -/
theorem Compilation.ofTokens_eq {tokens others : List Token}
    (same : Token.compileAll startIndex others = Token.compileAll startIndex tokens)
    (recognised : ∀ token ∈ others ++ tokens, token.unrecognised? = none)
    (shown : tokens.flatMap Token.entries ≠ []) (first second : Text) :
    ofTokens first others = ofTokens second tokens := by
  obtain ⟨hothers, htokens⟩ := List.forall_mem_append.mp recognised
  rw [ofTokens, ofTokens, same, Token.diagnose_eq_nil hothers, Token.diagnose_eq_nil htokens]
  cases h : Token.compileAll startIndex tokens with
  | error failure => rfl
  | ok placed =>
      have whole := Token.compileAll_eq_place (Int.le_refl 1) (Token.encodable_of_compileAll h)
      obtain rfl := Except.ok.inj (h.symm.trans whole)
      have filled : ¬(Page.place 1 (tokens.flatMap Token.entries)).isEmpty = true := by
        rwa [Page.isEmpty_place, List.isEmpty_iff]
      simp only [bind, Except.bind]
      rw [if_neg filled, if_neg filled]

namespace Token

/-- What is read back has a form, and so have printed tokens. -/
theorem recognised_printAll {tokens : List Token} (printable : ∀ token ∈ tokens, token.Printable)
    (back : (ofMarkdown (printAll tokens)).filter (!·.isSpace) = tokens) :
    ∀ token ∈ ofMarkdown (printAll tokens) ++ tokens, token.unrecognised? = none := by
  have own {token : Token} (h : token ∈ tokens) : token.unrecognised? = none := by
    have printable := printable token h
    cases token with
    | heading _ _ | paragraph _ | list _ _ | code _ | space => rfl
    | unknown _ | foreign _ => exact printable.elim
  refine List.forall_mem_append.mpr ⟨fun token h => ?_, fun token h => own h⟩
  cases hspace : token.isSpace with
  | true => cases token <;> first | rfl | cases hspace
  | false =>
      refine own (back ▸ List.mem_filter.mpr ⟨h, ?_⟩)
      rw [hspace]
      rfl

/-- **Printed tokens are read back and compiled as they are.** Tokens whose texts have no marks of
markdown, without neighbours that are read as one list, are the tokens of the printed document, but
for space. Unless the document begins with a brace, it is compiled to the operations of the
tokens. -/
theorem ofMarkdown_printAll {tokens : List Token} (printable : ∀ token ∈ tokens, token.Printable)
    (apart : tokens.IsChain Apart) :
    (∃ found, read (printAll tokens) = .ok found ∧ found.filter (!·.isSpace) = tokens) ∧
      ((∀ rest, tokens.head? ≠ some (.paragraph (Sign.leftBrace :: rest))) →
        ∀ placeholders, Content.compile placeholders (.value (.text (printAll tokens))) =
          Compilation.ofTokens [] tokens) := by
  obtain ⟨none, back⟩ := filter_ofMarkdown_printAll printable apart
  have found := read_of_destinations_eq_nil none
  refine ⟨⟨_, found, back⟩, fun opening placeholders => ?_⟩
  have plain := looksLikeJson_printAll printable opening
  have compiled : Content.compile placeholders (.value (.text (printAll tokens))) =
      Compilation.ofTokens (printAll tokens) (ofMarkdown (printAll tokens)) := by
    rw [Content.compile, Content.markdown_text, Content.markdownOfText, plain]
    simp only [Bool.false_eq_true, if_false, Compilation.ofMarkdown, found, bind, Except.bind]
  rw [compiled]
  by_cases some : tokens = []
  · rw [some]
    rfl
  · refine Compilation.ofTokens_eq ?_ (recognised_printAll printable back) ?_ _ _
    · have voiced := congrArg (List.filter (!·.isSilent)) back
      have silent : (fun token : Token => !token.isSilent && !token.isSpace) = (!·.isSilent) :=
        funext fun token => by cases token <;> rfl
      rw [List.filter_filter, silent] at voiced
      rw [← compileAll_voiced _ (ofMarkdown _), voiced, compileAll_voiced]
    · obtain ⟨token, tokens, rfl⟩ := List.exists_cons_of_ne_nil some
      rw [List.flatMap_cons]
      exact List.append_ne_nil_of_left_ne_nil (printable token List.mem_cons_self).entries_ne_nil _

/-- A document with a token of each kind, where a list follows another. -/
theorem ofMarkdown_printAll_mixed :
    let tokens : List Token := [.heading 2 "To do", .list true ["one", "two"],
      .list false ["1st"], .paragraph ". and so on", .code "x\n\n  # y"]
    (∃ found, read (printAll tokens) = .ok found ∧ found.filter (!·.isSpace) = tokens) ∧
      Content.compile .usual (.value (.text (printAll tokens))) =
        Compilation.ofTokens [] tokens := by
  intro tokens
  have printable : ∀ token ∈ tokens, token.Printable := by decide
  have apart : tokens.IsChain Apart := by decide
  obtain ⟨back, compiled⟩ := ofMarkdown_printAll printable apart
  exact ⟨back, compiled (fun rest h => by cases h) .usual⟩

end Token

end Coursework
