import Coursework.Proofs.Document.Page
import Coursework.Proofs.Text.Numeral

/-! # Where the text of tokens stands

The operations of a document put the lines of its tokens behind each other and give every line the
style of its own token. So they are never out of range, and the page that they make holds the text
of the tokens and nothing else.

* **`Token.lines`** are the texts that a token shows, **`Token.style?`** is the style of all of
  them, **`Token.cells`** the part of a page that is the token's own.
* **`Page.run_operations`** is the page that the operations of one line make.
* **`Page.place`** are the operations that put lines behind each other; `run_place` is the page
  that they make, `place_eq_append` tells what stands before each of them. -/

namespace Coursework

/-! ## (1) Lines of a token -/

namespace Token

/-- The lines of the items of a list from the given number on; blank items have none. -/
def itemLines (ordered : Bool) : Nat → List Text → List Text
  | _, [] => []
  | number, item :: items =>
    if item.isBlank then itemLines ordered (number + 1) items
    else itemLine ordered number item :: itemLines ordered (number + 1) items

/-- The texts that a token shows, each closed by a line end. -/
def lines : Token → List Text
  | heading _ content => [line content]
  | paragraph content => [line content]
  | list ordered items => itemLines ordered 1 items
  | code content => [line content]
  | space | unknown _ | foreign _ => []

/-- The style of the items of a list: bullets, unless they have numbers. -/
def listStyle? (ordered : Bool) : Option Style :=
  if ordered then none else some (.bullets bulletPreset)

/-- The style of the lines of a token, if it has one. -/
def style? : Token → Option Style
  | heading depth _ => some (.paragraph (headingStyle depth))
  | list ordered _ => listStyle? ordered
  | code _ => some (.font codeFont codeWeight)
  | paragraph _ | space | unknown _ | foreign _ => none

/-- The texts that a token is made of. -/
def contents : Token → List Text
  | heading _ content | paragraph content | code content => [content]
  | list _ items => items
  | space | unknown _ | foreign _ => []

/-- The text of a token in a document. -/
def text (token : Token) : Text := token.lines.flatten

/-- The part of a page that is a token's own: its lines in its style. -/
def cells (token : Token) : Page := token.lines.flatMap (Page.styled token.style?)

theorem exists_eq_itemLine {ordered : Bool} {content : Text} {number : Nat} {items : List Text}
    (member : content ∈ itemLines ordered number items) :
    ∃ place, ∃ item ∈ items, content = itemLine ordered place item := by
  induction items generalizing number with
  | nil => cases member
  | cons item items ih =>
      rw [itemLines] at member
      split at member
      · obtain ⟨place, found, hfound, same⟩ := ih member
        exact ⟨place, found, List.mem_cons_of_mem _ hfound, same⟩
      · rcases List.mem_cons.mp member with rfl | later
        · exact ⟨number, item, List.mem_cons_self, rfl⟩
        · obtain ⟨place, found, hfound, same⟩ := ih later
          exact ⟨place, found, List.mem_cons_of_mem _ hfound, same⟩

/-- Every line of a token is closed by a line end. -/
theorem exists_of_mem_lines {token : Token} {content : Text} (member : content ∈ token.lines) :
    ∃ start, content = start ++ [Sign.newline] := by
  cases token with
  | heading depth own | paragraph own | code own =>
      exact ⟨own, List.mem_singleton.mp member⟩
  | list ordered items =>
      obtain ⟨place, item, -, same⟩ := exists_eq_itemLine member
      exact ⟨_, same⟩
  | space | unknown _ | foreign _ => cases member

theorem hasSurrogate_line (content : Text) :
    (line content).hasSurrogate = content.hasSurrogate := by
  rw [line, Text.hasSurrogate_append]
  exact Bool.or_false _

/-- What stands before an item has no surrogate. -/
theorem hasSurrogate_itemLine (ordered : Bool) (number : Nat) (item : Text) :
    (itemLine ordered number item).hasSurrogate = item.hasSurrogate := by
  rw [itemLine, hasSurrogate_line, Text.hasSurrogate_append]
  cases ordered with
  | false => rfl
  | true =>
      rw [if_pos rfl, Text.hasSurrogate_append, Text.hasSurrogate_ofNat]
      rfl

end Token

/-! ## (2) Putting lines behind each other -/

namespace Page

/-- A line and its style. -/
structure Entry where
  /-- The style, if there is one. -/
  style? : Option Style
  /-- The line. -/
  content : Text

namespace Entry

/-- A line as it stands on a page. -/
def cells (entry : Entry) : Page := styled entry.style? entry.content

/-- The operations that put a line at a position and give it its style. -/
def operations (cursor : Int) (entry : Entry) : List Operation :=
  .insertText cursor entry.content :: entry.style?.toList.map fun style =>
    style.operation cursor (cursor + style.extent entry.content)

/-- The text of lines. -/
def text (entries : List Entry) : Text := entries.flatMap content

@[simp] theorem text_nil : text [] = [] := rfl

@[simp] theorem text_cons (entry : Entry) (entries : List Entry) :
    text (entry :: entries) = entry.content ++ text entries := rfl

@[simp] theorem text_append (first second : List Entry) :
    text (first ++ second) = text first ++ text second := List.flatMap_append

/-- The cells of lines hold the units of their text. -/
theorem map_unit_cells (entries : List Entry) :
    (entries.flatMap cells).map Cell.unit = (text entries).utf16 := by
  induction entries with
  | nil => rfl
  | cons entry entries ih =>
      rw [List.flatMap_cons, List.map_append, ih, cells, map_unit_styled, text_cons,
        Text.utf16_append]

end Entry

/-- The operations that put lines behind each other from a position on. -/
def place (cursor : Int) : List Entry → List Operation
  | [] => []
  | entry :: entries =>
    entry.operations cursor ++ place (cursor + entry.content.units) entries

@[simp] theorem place_nil (cursor : Int) : place cursor [] = [] := rfl

@[simp] theorem place_cons (cursor : Int) (entry : Entry) (entries : List Entry) :
    place cursor (entry :: entries)
      = entry.operations cursor ++ place (cursor + entry.content.units) entries := rfl

@[simp] theorem isEmpty_place (cursor : Int) (entries : List Entry) :
    (place cursor entries).isEmpty = entries.isEmpty := by
  cases entries <;> rfl

theorem place_append (cursor : Int) (first second : List Entry) :
    place cursor (first ++ second)
      = place cursor first ++ place (cursor + (Entry.text first).units) second := by
  induction first generalizing cursor with
  | nil => simp
  | cons entry first ih =>
      rw [List.cons_append, place_cons, place_cons, ih, List.append_assoc, Entry.text_cons,
        Text.units_append]
      push_cast
      rw [Int.add_assoc]

/-- A text inserted behind the last unit is the end of the page. -/
theorem insert?_end (page : Page) (content : Text) :
    page.insert? (page.length + 1) content = some (page ++ plain content) := by
  rw [insert?, if_pos (by omega)]
  have h : ((page.length : Int) + 1 - 1).toNat = page.length := by omega
  simp only [h, List.take_length, List.drop_length, List.append_nil]

/-- A style that is given to the first units behind a page leaves the page alone. -/
theorem style?_end (page added : Page) (count : Nat) (style : Style)
    (enough : count ≤ added.length) :
    style? (page ++ added) (page.length + 1) (page.length + 1 + count) style
      = some (page ++ (mark style (added.take count) ++ added.drop count)) := by
  rw [style?, if_pos (by rw [List.length_append]; omega)]
  have hstart : ((page.length : Int) + 1 - 1).toNat = page.length := by omega
  have hstop : ((page.length : Int) + 1 + count - 1).toNat = page.length + count := by omega
  simp only [hstart, hstop, List.take_left, List.drop_left, List.take_length_add_append,
    List.drop_length_add_append, List.append_assoc]

/-- The operations of a line put it behind the last unit of a page. -/
theorem run_operations (page : Page) (entry : Entry) :
    run (entry.operations (page.length + 1)) page = some (page ++ entry.cells) := by
  obtain ⟨style?, content⟩ := entry
  rw [Entry.operations, run_cons, Operation.effect?, insert?_end, Option.bind_some, Entry.cells]
  cases style? with
  | none => rfl
  | some style =>
      have h := Style.extent_le content style
      rw [← length_plain] at h
      rw [Option.toList_some, List.map_singleton, run_cons, Style.effect?_operation,
        style?_end _ _ _ _ h, Option.bind_some, run_nil, styled]

/-- Lines that are put behind each other are never out of range and make one page. -/
theorem run_place (page : Page) (entries : List Entry) :
    run (place (page.length + 1) entries) page = some (page ++ entries.flatMap Entry.cells) := by
  induction entries generalizing page with
  | nil => simp
  | cons entry entries ih =>
      have h := ih (page ++ entry.cells)
      rw [List.length_append, Entry.cells, length_styled] at h
      push_cast at h
      rw [place_cons, run_append, run_operations, Option.bind_some, List.flatMap_cons,
        ← List.append_assoc, Entry.cells, Int.add_right_comm]
      exact h

/-- What stands before an operation that puts a line or gives it its style: the operations of the
lines before it, and for a style the insertion of its own line. -/
theorem place_eq_append {cursor : Int} {entries : List Entry} {before after : List Operation}
    {operation : Operation} (split : place cursor entries = before ++ operation :: after) :
    ∃ earlier entry later, entries = earlier ++ entry :: later ∧
      ((before = place cursor earlier ∧
          operation = .insertText (cursor + (Entry.text earlier).units) entry.content) ∨
        ∃ style, entry.style? = some style ∧
          before = place cursor earlier ++
            [.insertText (cursor + (Entry.text earlier).units) entry.content] ∧
          operation = style.operation (cursor + (Entry.text earlier).units)
            (cursor + (Entry.text earlier).units + style.extent entry.content)) := by
  induction entries generalizing cursor before with
  | nil => cases before <;> cases split
  | cons entry entries ih =>
      -- the operation is the insertion, the style behind it, or one of the lines that follow
      rw [place_cons, Entry.operations, List.cons_append] at split
      cases before with
      | nil =>
          refine ⟨[], entry, entries, rfl, .inl ⟨rfl, ?_⟩⟩
          simpa using (List.cons.inj split).1.symm
      | cons first before =>
          obtain ⟨rfl, hrest⟩ := List.cons.inj split
          cases hstyle : entry.style? with
          | none =>
              rw [hstyle] at hrest
              obtain ⟨earlier, found, later, rfl, h⟩ := ih hrest
              refine ⟨entry :: earlier, found, later, rfl, ?_⟩
              simpa [Entry.operations, hstyle, Int.add_assoc] using h
          | some style =>
              rw [hstyle] at hrest
              cases before with
              | nil =>
                  refine ⟨[], entry, entries, rfl, .inr ⟨style, hstyle, by simp, ?_⟩⟩
                  simpa using (List.cons.inj hrest).1.symm
              | cons second before =>
                  obtain ⟨rfl, hlater⟩ := List.cons.inj hrest
                  obtain ⟨earlier, found, later, rfl, h⟩ := ih hlater
                  refine ⟨entry :: earlier, found, later, rfl, ?_⟩
                  simpa [Entry.operations, hstyle, Int.add_assoc] using h

end Page

end Coursework
