import Coursework.Document.Compilation
import Coursework.Proofs.Text.Units

/-! # Pages

A page is what a document service keeps: UTF-16 units, each with the styles it was given.
Positions count from 1. A text may be inserted at any position up to the one behind the last unit,
and a style be given to any range of units; all else is out of range.

* **`Operation.effect?`** is one operation on a page, **`Page.run`** a list of them in order.
* **`Token.lines`** are the texts that a token shows and **`Token.style?`** is the style of all of
  them; **`Token.cells`** is the part of a page that is the token's own.
* **`Page.place`** are the operations that put lines behind each other; `run_place` says what page
  they make, `place_eq_append` what stands before each of them. -/

namespace Coursework

/-! ## (1) Pages and operations -/

/-- A style of a range of units. -/
inductive Style
  /-- The named style of paragraphs. -/
  | paragraph (name : Text)
  /-- Bullets. -/
  | bullets (preset : Text)
  /-- A font. -/
  | font (family : Text) (weight : Int)
  deriving DecidableEq, Repr

/-- A unit of a page. -/
structure Page.Cell where
  /-- The UTF-16 unit. -/
  unit : Nat
  /-- The styles that it was given, in order. -/
  styles : List Style := []
  deriving DecidableEq, Repr

/-- The units of a document in order; the first has position 1. -/
abbrev Page := List Page.Cell

namespace Page

/-- The units of a text without style. -/
def plain (content : Text) : Page := content.utf16.map fun unit => { unit }

/-- Units that are given one more style. -/
def mark (style : Style) (cells : Page) : Page :=
  cells.map fun cell => { cell with styles := cell.styles ++ [style] }

/-- The page with a text inserted at a position. -/
def insert? (page : Page) (index : Int) (content : Text) : Option Page :=
  if 1 ≤ index ∧ index ≤ page.length + 1 then
    let place := (index - 1).toNat
    some (page.take place ++ plain content ++ page.drop place)
  else none

/-- The page with a style given to the units from a position on and before another. -/
def style? (page : Page) (first last : Int) (style : Style) : Option Page :=
  if 1 ≤ first ∧ first ≤ last ∧ last ≤ page.length + 1 then
    let start := (first - 1).toNat
    let stop := (last - 1).toNat
    some (page.take start ++ mark style ((page.take stop).drop start) ++ page.drop stop)
  else none

end Page

/-- The page after an operation; nothing if the operation is out of range. -/
def Operation.effect? (page : Page) : Operation → Option Page
  | insertText index content => page.insert? index content
  | setParagraphStyle first last styleName => page.style? first last (.paragraph styleName)
  | setListBullets first last preset => page.style? first last (.bullets preset)
  | setTextStyle first last fontFamily weight => page.style? first last (.font fontFamily weight)

/-- The operation that gives a range a style. -/
def Style.operation (first last : Int) : Style → Operation
  | paragraph name => .setParagraphStyle first last name
  | bullets preset => .setListBullets first last preset
  | font family weight => .setTextStyle first last family weight

/-- How many units of an inserted text a style covers: bullets leave out the last. -/
def Style.extent (content : Text) : Style → Nat
  | bullets _ => content.units - 1
  | paragraph _ | font _ _ => content.units

theorem Style.extent_le (content : Text) (style : Style) :
    style.extent content ≤ content.units := by
  cases style with
  | bullets _ => exact Nat.sub_le _ _
  | paragraph _ | font _ _ => exact le_rfl

/-- An operation that gives a style tells its range and its style. -/
theorem Style.operation_inj {first last otherFirst otherLast : Int} {style other : Style}
    (same : style.operation first last = other.operation otherFirst otherLast) :
    first = otherFirst ∧ last = otherLast ∧ style = other := by
  cases style <;> cases other <;> cases same <;> exact ⟨rfl, rfl, rfl⟩

@[simp] theorem Style.effect?_operation (page : Page) (first last : Int) (style : Style) :
    (style.operation first last).effect? page = page.style? first last style := by
  cases style <;> rfl

namespace Page

/-- The page after operations in order; nothing if one of them is out of range. -/
def run : List Operation → Page → Option Page
  | [], page => some page
  | operation :: operations, page => (operation.effect? page).bind (run operations)

@[simp] theorem run_nil (page : Page) : run [] page = some page := rfl

@[simp] theorem run_cons (operation : Operation) (operations : List Operation) (page : Page) :
    run (operation :: operations) page = (operation.effect? page).bind (run operations) := rfl

theorem run_append (first second : List Operation) (page : Page) :
    run (first ++ second) page = (run first page).bind (run second) := by
  induction first generalizing page with
  | nil => rfl
  | cons operation first ih =>
      rw [List.cons_append, run_cons, run_cons]
      cases operation.effect? page with
      | none => rfl
      | some next => exact ih next

/-- Whether the next unit of a page begins a line: it is the first, or a line has just ended. -/
def EndsLine (page : Page) : Prop := ∀ cell, page.getLast? = some cell → cell.unit = Sign.newline

/-- A text as it stands on a page in a style, if it has one. -/
def styled (style? : Option Style) (content : Text) : Page :=
  match style? with
  | none => plain content
  | some style =>
    mark style ((plain content).take (style.extent content)) ++
      (plain content).drop (style.extent content)

@[simp] theorem length_plain (content : Text) : (plain content).length = content.units := by
  rw [plain, List.length_map, Text.length_utf16]

@[simp] theorem map_unit_plain (content : Text) :
    (plain content).map Cell.unit = content.utf16 := by
  rw [plain, List.map_map]
  exact List.map_id _

@[simp] theorem map_unit_mark (style : Style) (cells : Page) :
    (mark style cells).map Cell.unit = cells.map Cell.unit := by
  rw [mark, List.map_map]
  rfl

/-- A style changes no unit of a text. -/
@[simp] theorem map_unit_styled (style? : Option Style) (content : Text) :
    (styled style? content).map Cell.unit = content.utf16 := by
  cases style? with
  | none => exact map_unit_plain content
  | some style =>
      rw [styled, List.map_append, map_unit_mark, ← List.map_append, List.take_append_drop,
        map_unit_plain]

@[simp] theorem length_styled (style? : Option Style) (content : Text) :
    (styled style? content).length = content.units := by
  have h := congrArg List.length (map_unit_styled style? content)
  rwa [List.length_map, Text.length_utf16] at h

/-- A page ends a line if its units do. -/
theorem endsLine_of_map_unit {page : Page} {units : List Nat}
    (same : page.map Cell.unit = units ++ [Sign.newline]) : page.EndsLine := by
  intro cell last
  have h : (page.map Cell.unit).getLast? = some cell.unit := by
    rw [List.getLast?_map, last, Option.map_some]
  rw [same, List.getLast?_concat] at h
  exact (Option.some.inj h).symm

end Page

end Coursework
