import Coursework.Proofs.Document.Placement
import Coursework.Proofs.Outcome

/-! # The page of a compiled document

Tokens compile exactly if they have no surrogates. Running the operations in order on an empty page
is never out of range; every insertion is at the end of the page and begins a line, and every style
covers the insertion just before it, so the page is the cells of the tokens in order.

* **`Token.compileAll_eq_place`**: the operations of tokens put their lines behind each other.
* **`Token.encodable_of_compileAll`**: they are counted, so the tokens have no surrogates.
* **`Compilation.ofTokens_runs`** is the main statement. -/

namespace Coursework

open Page

/-! ## (1) Operations of tokens -/

namespace Token

/-- The lines of a token in its style. -/
def entries (token : Token) : List Entry := token.lines.map fun content => ⟨token.style?, content⟩

@[simp] theorem text_entries (token : Token) : Entry.text token.entries = token.text := by
  rw [entries, Entry.text, List.flatMap_map, text, ← List.flatMap_id]
  rfl

theorem text_flatMap_entries (tokens : List Token) :
    Entry.text (tokens.flatMap entries) = tokens.flatMap text := by
  rw [Entry.text, List.flatMap_assoc]
  exact congrArg (List.flatMap · tokens) (funext text_entries)

@[simp] theorem flatMap_cells_entries (token : Token) :
    token.entries.flatMap Entry.cells = token.cells := by
  rw [entries, List.flatMap_map]
  rfl

/-- A token whose own texts have no surrogate. -/
def Encodable (token : Token) : Prop := ∀ content ∈ token.contents, content.hasSurrogate = false

instance (token : Token) : Decidable token.Encodable :=
  inferInstanceAs (Decidable (∀ content ∈ token.contents, content.hasSurrogate = false))

/-- The lines of such a token have none either. -/
theorem Encodable.lines {token : Token} (encodable : token.Encodable) {content : Text}
    (member : content ∈ token.lines) : content.hasSurrogate = false := by
  cases token with
  | heading depth own | paragraph own | code own =>
      rw [List.mem_singleton.mp member, hasSurrogate_line]
      exact encodable own List.mem_cons_self
  | list ordered items =>
      obtain ⟨place, item, hitem, rfl⟩ := exists_eq_itemLine member
      rw [hasSurrogate_itemLine]
      exact encodable item hitem
  | space | unknown _ | foreign _ => cases member

/-- An insertion from the first position on is admitted. -/
theorem inserting_eq_ok {cursor : Int} (start : 1 ≤ cursor) (content : Text) :
    Operation.inserting cursor content = .ok (.insertText cursor content) := by
  rw [Operation.inserting, Form.atLeast, if_neg (by omega)]
  rfl

/-- A text without surrogates has as many units as are counted. -/
theorem documentLength_eq_ok {content : Text} (plain : content.hasSurrogate = false) :
    content.documentLength = .ok content.units := by
  rw [Text.documentLength, Text.utf16Length_eq_ok plain]
  rfl

/-- The operations of an item: its insertion, and without numbers the bullets of all but its line
end. -/
theorem operations_item (ordered : Bool) (cursor : Int) {content : Text}
    (covered : 1 ≤ content.units) :
    Entry.operations cursor ⟨listStyle? ordered, content⟩
      = .insertText cursor content :: if ordered then [] else
          [.setListBullets cursor (cursor + content.units - 1) bulletPreset] := by
  cases ordered with
  | true => rfl
  | false =>
      have hlast : cursor + (content.units - 1 : Nat) = cursor + content.units - 1 := by omega
      rw [← hlast]
      rfl

/-- The items of a list put their lines behind each other. -/
theorem compileItems_eq_place (ordered : Bool) {number : Nat} {cursor : Int} (start : 1 ≤ cursor)
    {items : List Text}
    (plain : ∀ content ∈ itemLines ordered number items, content.hasSurrogate = false) :
    compileItems ordered number cursor items
      = .ok ⟨place cursor ((itemLines ordered number items).map (Entry.mk (listStyle? ordered))),
          cursor + Text.units (itemLines ordered number items).flatten⟩ := by
  induction items generalizing number cursor with
  | nil => rw [compileItems, itemLines]; simp
  | cons item items ih =>
      rw [compileItems]
      by_cases blank : item.isBlank
      · rw [if_pos blank, ih start (by rwa [itemLines, if_pos blank] at plain), itemLines,
          if_pos blank]
      · rw [itemLines, if_neg blank] at plain ⊢
        have own := documentLength_eq_ok (plain _ List.mem_cons_self)
        have later : 1 ≤ cursor + ((itemLine ordered number item).units : Int) := by omega
        have rest := ih later fun content member => plain content (List.mem_cons_of_mem _ member)
        have covered : 1 ≤ (itemLine ordered number item).units := by
          rw [itemLine, line, Text.units_append, Text.units_cons, Sign.units_newline]
          omega
        rw [if_neg blank]
        simp only [own, inserting_eq_ok start, bind, Except.bind, pure, Except.pure, rest]
        rw [List.map_cons, place_cons, operations_item ordered cursor covered, List.flatten_cons,
          Text.units_append, Int.natCast_add, ← Int.add_assoc]

/-- A token puts its lines behind each other. -/
theorem compile_eq_place {cursor : Int} (start : 1 ≤ cursor) {token : Token}
    (encodable : token.Encodable) :
    token.compile cursor = .ok ⟨place cursor token.entries, cursor + token.text.units⟩ := by
  have plain {content : Text} (member : content ∈ token.lines) := encodable.lines member
  have closed (content : Text) : (line content ++ []).units = (line content).units := by
    rw [List.append_nil]
  cases token with
  | heading depth content | code content =>
      rw [compile, documentLength_eq_ok (plain List.mem_cons_self), inserting_eq_ok start]
      rw [text, lines, List.flatten_cons, List.flatten_nil, closed]
      rfl
  | paragraph content =>
      rw [compile, documentLength_eq_ok (plain List.mem_cons_self), inserting_eq_ok start]
      rw [text, lines, List.flatten_cons, List.flatten_nil, closed]
      rfl
  | list ordered items =>
      rw [compile, compileItems_eq_place ordered start fun content member => plain member]
      rfl
  | space | unknown _ | foreign _ => rw [compile]; simp [text, lines, entries]

/-- The operations of tokens put the lines of all of them behind each other. -/
theorem compileAll_eq_place {cursor : Int} (start : 1 ≤ cursor) {tokens : List Token}
    (encodable : ∀ token ∈ tokens, token.Encodable) :
    compileAll cursor tokens
      = .ok ⟨place cursor (tokens.flatMap entries), cursor + Text.units (tokens.flatMap text)⟩ := by
  induction tokens generalizing cursor with
  | nil => simp [compileAll]
  | cons token tokens ih =>
      have first := compile_eq_place start (encodable token List.mem_cons_self)
      have later : 1 ≤ cursor + (token.text.units : Int) := by omega
      have rest := ih later fun other member => encodable other (List.mem_cons_of_mem _ member)
      rw [compileAll, first]
      simp only [bind, Except.bind, pure, Except.pure, rest]
      rw [List.flatMap_cons, List.flatMap_cons, place_append, text_entries, Text.units_append,
        Int.natCast_add, Int.add_assoc]

/-- A text whose units are counted has no surrogate. -/
theorem hasSurrogate_of_documentLength {content : Text} {length : Nat}
    (measured : content.documentLength = .ok length) : content.hasSurrogate = false := by
  rw [Text.documentLength] at measured
  cases h : content.utf16Length with
  | ok units => exact (Text.hasSurrogate_of_utf16Length h).1
  | error fault =>
      rw [h] at measured
      cases measured

/-- Nor has white space. -/
theorem hasSurrogate_of_isBlank {content : Text} (blank : content.isBlank = true) :
    content.hasSurrogate = false := by
  refine Text.hasSurrogate_of_forall_lt fun sign member => ?_
  have h := List.all_eq_true.mp blank sign member
  simp only [Sign.isBlank, Bool.or_eq_true, Bool.and_eq_true, decide_eq_true_eq, beq_iff_eq] at h
  omega

/-- The items of a list that is compiled have no surrogates: they are counted or blank. -/
theorem hasSurrogate_of_compileItems {ordered : Bool} {number : Nat} {cursor : Int}
    {items : List Text} {placed : Placed}
    (compiled : compileItems ordered number cursor items = .ok placed) :
    ∀ item ∈ items, item.hasSurrogate = false := by
  induction items generalizing number cursor placed with
  | nil => exact fun item h => absurd h List.not_mem_nil
  | cons item items ih =>
      rw [compileItems] at compiled
      split at compiled
      · rename_i blank
        exact List.forall_mem_cons.mpr ⟨hasSurrogate_of_isBlank blank, ih compiled⟩
      · obtain ⟨length, measured, compiled⟩ := Outcome.bind_eq_ok_iff.mp compiled
        obtain ⟨insertion, -, compiled⟩ := Outcome.bind_eq_ok_iff.mp compiled
        obtain ⟨rest, hrest, -⟩ := Outcome.bind_eq_ok_iff.mp compiled
        have own := hasSurrogate_of_documentLength measured
        rw [hasSurrogate_itemLine] at own
        exact List.forall_mem_cons.mpr ⟨own, ih hrest⟩

/-- A token that is compiled has no surrogates. -/
theorem encodable_of_compile {token : Token} {cursor : Int} {placed : Placed}
    (compiled : token.compile cursor = .ok placed) : token.Encodable := by
  have one {content : Text} {length : Nat} (measured : (line content).documentLength = .ok length) :
      ∀ own ∈ [content], own.hasSurrogate = false := by
    intro own h
    rw [List.mem_singleton.mp h, ← hasSurrogate_line]
    exact hasSurrogate_of_documentLength measured
  cases token with
  | heading depth content | code content =>
      obtain ⟨length, measured, -⟩ := Outcome.bind_eq_ok_iff.mp compiled
      exact one measured
  | paragraph content =>
      -- the insertion is checked before the text is counted
      obtain ⟨insertion, -, compiled⟩ := Outcome.bind_eq_ok_iff.mp compiled
      obtain ⟨length, measured, -⟩ := Outcome.bind_eq_ok_iff.mp compiled
      exact one measured
  | list ordered items => exact hasSurrogate_of_compileItems compiled
  | space | unknown _ | foreign _ => exact fun own h => absurd h List.not_mem_nil

theorem encodable_of_compileAll {tokens : List Token} {cursor : Int} {placed : Placed}
    (compiled : compileAll cursor tokens = .ok placed) : ∀ token ∈ tokens, token.Encodable := by
  induction tokens generalizing cursor placed with
  | nil => exact fun token h => absurd h List.not_mem_nil
  | cons token tokens ih =>
      obtain ⟨first, hfirst, compiled⟩ := Outcome.bind_eq_ok_iff.mp compiled
      obtain ⟨rest, hrest, -⟩ := Outcome.bind_eq_ok_iff.mp compiled
      exact List.forall_mem_cons.mpr ⟨encodable_of_compile hfirst, ih hrest⟩

/-- Tokens have no line exactly if they have no text. -/
theorem isEmpty_entries (tokens : List Token) :
    (tokens.flatMap entries).isEmpty = (tokens.flatMap text).isEmpty := by
  induction tokens with
  | nil => rfl
  | cons token tokens ih =>
      have own : token.entries.isEmpty = token.text.isEmpty := by
        cases hlines : token.lines with
        | nil => rw [entries, text, hlines]; rfl
        | cons content others =>
            obtain ⟨start, rfl⟩ := exists_of_mem_lines (hlines ▸ List.mem_cons_self)
            rw [entries, text, hlines]
            simp
      rw [List.flatMap_cons, List.flatMap_cons, Bool.eq_iff_iff] at *
      simp only [List.isEmpty_iff, List.append_eq_nil_iff] at *
      rw [own, ih]

end Token

/-! ## (2) Documents -/

namespace Compilation

/-- The text of a document: that of its tokens in order, or the source behind the fallback heading
if they show nothing. -/
def documentText (source : Text) (tokens : List Token) : Text :=
  if (tokens.flatMap Token.text).isEmpty then fallbackHeading ++ source
  else tokens.flatMap Token.text

/-- The page of a document: the cells of its tokens in order, or the text of the fallback without
style. -/
def documentPage (source : Text) (tokens : List Token) : Page :=
  if (tokens.flatMap Token.text).isEmpty then plain (fallbackHeading ++ source)
  else tokens.flatMap Token.cells

/-- The lines of a document with their styles. -/
def documentEntries (source : Text) (tokens : List Token) : List Entry :=
  if (tokens.flatMap Token.text).isEmpty then [⟨none, fallbackHeading ++ source⟩]
  else tokens.flatMap Token.entries

/-- A document that is compiled has no surrogates in its tokens. -/
theorem encodable_of_ofTokens {source : Text} {tokens : List Token} {compilation : Compilation}
    (compiled : ofTokens source tokens = .ok compilation) :
    ∀ token ∈ tokens, token.Encodable := by
  obtain ⟨placed, hplaced, -⟩ := Outcome.bind_eq_ok_iff.mp compiled
  exact Token.encodable_of_compileAll hplaced

/-- A document without surrogates puts its lines behind each other from the first position on. -/
theorem ofTokens_eq_place {source : Text} {tokens : List Token}
    (encodable : ∀ token ∈ tokens, token.Encodable) (plain : source.hasSurrogate = false) :
    ∃ noticed, ofTokens source tokens = .ok ⟨place startIndex (documentEntries source tokens),
      startIndex + (documentText source tokens).units, noticed⟩ := by
  have start : (1 : Int) ≤ startIndex := Int.le_refl 1
  have placed := Token.compileAll_eq_place start encodable
  rw [ofTokens, placed, documentEntries, documentText]
  simp only [bind, Except.bind, pure, Except.pure, isEmpty_place, Token.isEmpty_entries]
  by_cases shown : (tokens.flatMap Token.text).isEmpty
  · have measured : (fallbackHeading ++ source).hasSurrogate = false := by
      rw [Text.hasSurrogate_append, plain]
      rfl
    rw [if_pos shown, if_pos shown, if_pos shown, Token.documentLength_eq_ok measured]
    exact ⟨_, rfl⟩
  · rw [if_neg shown, if_neg shown, if_neg shown]
    exact ⟨_, rfl⟩

/-- With a source without surrogates, tokens compile exactly if they have none. -/
theorem exists_ofTokens_iff {source : Text} (tokens : List Token)
    (plain : source.hasSurrogate = false) :
    (∃ compilation, ofTokens source tokens = .ok compilation) ↔
      ∀ token ∈ tokens, token.Encodable := by
  constructor
  · rintro ⟨compilation, compiled⟩
    exact encodable_of_ofTokens compiled
  · intro encodable
    obtain ⟨noticed, compiled⟩ := ofTokens_eq_place encodable plain
    exact ⟨_, compiled⟩

@[simp] theorem text_documentEntries (source : Text) (tokens : List Token) :
    Entry.text (documentEntries source tokens) = documentText source tokens := by
  rw [documentEntries, documentText]
  split
  · rw [Entry.text_cons, Entry.text_nil, List.append_nil]
  · exact Token.text_flatMap_entries tokens

@[simp] theorem cells_documentEntries (source : Text) (tokens : List Token) :
    (documentEntries source tokens).flatMap Entry.cells = documentPage source tokens := by
  rw [documentEntries, documentPage]
  split
  · exact List.flatMap_singleton _ _
  · rw [List.flatMap_assoc]
    exact congrArg (List.flatMap · tokens) (funext Token.flatMap_cells_entries)

/-- The lines of a document are those of its tokens, unless there is the fallback alone. -/
theorem documentEntries_cases (source : Text) (tokens : List Token) :
    documentEntries source tokens = [⟨none, fallbackHeading ++ source⟩] ∨
      ∀ entry ∈ documentEntries source tokens,
        ∃ token ∈ tokens, entry.style? = token.style? ∧ entry.content ∈ token.lines := by
  rw [documentEntries]
  split
  · exact .inl rfl
  · right
    intro entry member
    obtain ⟨token, htoken, hentry⟩ := List.mem_flatMap.mp member
    obtain ⟨content, hcontent, rfl⟩ := List.mem_map.mp hentry
    exact ⟨token, htoken, rfl, hcontent⟩

/-- The text before a line of a document ends with a line end. -/
theorem text_eq_of_documentEntries {source : Text} {tokens : List Token}
    {earlier later : List Entry} {entry : Entry} (some : earlier ≠ [])
    (split : documentEntries source tokens = earlier ++ entry :: later) :
    ∃ start, Entry.text earlier = start ++ [Sign.newline] := by
  rcases List.eq_nil_or_concat earlier with rfl | ⟨front, last, rfl⟩
  · exact absurd rfl some
  · rcases documentEntries_cases source tokens with alone | every
    · -- the fallback has no line before it
      have h := congrArg List.length (split.symm.trans alone)
      simp only [List.concat_eq_append, List.length_append, List.length_cons, List.length_nil] at h
      omega
    · have member : last ∈ documentEntries source tokens := by rw [split]; simp
      obtain ⟨token, -, -, hlast⟩ := every last member
      obtain ⟨start, closed⟩ := Token.exists_of_mem_lines hlast
      exact ⟨Entry.text front ++ start, by simp [closed]⟩

/-- The lines that end before an operation fill the page up to its position. -/
theorem run_earlier (earlier : List Entry) :
    run (place startIndex earlier) [] = some (earlier.flatMap Entry.cells) :=
  run_place [] earlier

/-- Every insertion is made at the end of the page, where a line begins. -/
theorem insertText_at_end {source : Text} {tokens : List Token} {before after : List Operation}
    {index : Int} {content : Text}
    (split : place startIndex (documentEntries source tokens) =
      before ++ .insertText index content :: after) :
    ∃ page, run before [] = some page ∧ index = page.length + 1 ∧ page.EndsLine := by
  obtain ⟨earlier, entry, later, hentries, ⟨rfl, same⟩ | ⟨style, -, -, same⟩⟩ :=
    place_eq_append split
  · obtain ⟨rfl, rfl⟩ := Operation.insertText.inj same
    have cellUnits := Entry.map_unit_cells earlier
    refine ⟨_, run_earlier earlier, ?_, ?_⟩
    · have h := congrArg List.length cellUnits
      rw [List.length_map, Text.length_utf16] at h
      rw [h, Int.add_comm]
      rfl
    · by_cases first : earlier = []
      · subst first
        intro cell last
        cases last
      · obtain ⟨start, closed⟩ := text_eq_of_documentEntries first hentries
        rw [closed, Text.utf16_append] at cellUnits
        exact endsLine_of_map_unit cellUnits
  · cases style <;> cases same

/-- Every style is that of a token, and covers the line of that token inserted just before it. -/
theorem style_behind_line {source : Text} {tokens : List Token} {before after : List Operation}
    {first last : Int} {style : Style}
    (split : place startIndex (documentEntries source tokens) =
      before ++ Style.operation first last style :: after) :
    ∃ earlier, ∃ token ∈ tokens, ∃ content, token.style? = some style ∧
      Token.line content ∈ token.lines ∧
      before = earlier ++ [.insertText first (Token.line content)] ∧
      last = first + style.extent (Token.line content) := by
  obtain ⟨earlier, entry, later, hentries, ⟨-, same⟩ | ⟨found, hstyle, rfl, same⟩⟩ :=
    place_eq_append split
  · cases style <;> cases same
  · obtain ⟨rfl, rfl, rfl⟩ := Style.operation_inj same
    have member : entry ∈ documentEntries source tokens := by rw [hentries]; simp
    rcases documentEntries_cases source tokens with alone | every
    · -- the fallback has no style
      rw [alone, List.mem_singleton] at member
      rw [member] at hstyle
      cases hstyle
    · obtain ⟨token, htoken, own, hline⟩ := every entry member
      obtain ⟨content, closed⟩ := Token.exists_of_mem_lines hline
      rw [closed] at hline ⊢
      exact ⟨_, token, htoken, content, own ▸ hstyle, hline, rfl, rfl⟩

end Compilation

end Coursework
