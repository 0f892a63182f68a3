import Coursework.Proofs.Markdown.Signs
import Coursework.Proofs.Markdown.Unescape
import Coursework.Proofs.Text.Units

/-! # Destinations of links

A destination is a part of the text in which its link stands, so it has no signs but those of the
text, line feeds and spaces. It has an address unless there is a surrogate in it. A text without
marks has no links.

* **`Link.exists_bytes_iff`** says which destinations have addresses.
* **`Inline.signs_destinations`** and **`Inline.destinations_eq_nil`** are about the links of a
  text. -/

namespace Coursework.Markdown

/-! ## (1) Addresses -/

/-- Only backslashes are dropped. -/
theorem hasSurrogate_unescape (text : Text) :
    (unescape text).hasSurrogate = text.hasSurrogate := by
  induction text using unescape.induct with
  | case1 => rfl
  | case2 sign => rfl
  | case3 sign next text escape ih =>
      have dropped : sign = Sign.backslash := by
        rw [Link.isEscape, Bool.and_eq_true, beq_iff_eq] at escape
        exact escape.1
      rw [unescape, if_pos escape, Text.hasSurrogate_cons, ih, dropped,
        Text.hasSurrogate_cons_of_lt (by decide), Text.hasSurrogate_cons]
  | case4 sign next text plain ih =>
      rw [unescape, if_neg plain, Text.hasSurrogate_cons, ih, ← Text.hasSurrogate_cons]

/-- A destination has an address exactly if it has no surrogate. -/
theorem Link.exists_bytes_iff {destination : Text} :
    (∃ bytes, Link.bytes destination = .ok bytes) ↔ destination.hasSurrogate = false := by
  rw [← hasSurrogate_unescape]
  exact Text.exists_utf8_iff

/-- The definitions that count are some of those that were read. -/
theorem Definition.counted_subset (definitions : List Definition) :
    Definition.counted definitions ⊆ definitions := by
  induction definitions with
  | nil => exact List.Subset.refl _
  | cons latest earlier ih =>
      rw [Definition.counted]
      refine List.append_subset.mpr ⟨fun found h => List.mem_cons_of_mem _ (ih h), ?_⟩
      split
      · exact List.nil_subset _
      · exact List.cons_subset.mpr ⟨List.mem_cons_self, List.nil_subset _⟩

namespace Inline

variable {P : Nat → Prop}

/-! ## (2) Links -/

/-- The destination of a link is read behind the sign that makes it one. -/
theorem destination?_subset {state : State} {sign : Nat} {rest found : Text}
    (h : destination? state sign rest = some found) : found ⊆ rest := by
  rw [destination?] at h
  split at h
  · split at h
    · exact Link.target?_subset h
    · cases h
  · split at h
    · obtain ⟨⟨address, after⟩, hlink, rfl⟩ := Option.map_eq_some_iff.mp h
      rw [link?_eq_some hlink]
      exact List.subset_append_left _ _
    · cases h

theorem signs_destinationsFrom (labels : List Text) (newline : P Sign.newline)
    (space : P Sign.space) (steps : Nat) {state : State} {text : Text} (all : state.All P)
    (signs : ∀ sign ∈ text, P sign) :
    ∀ found ∈ destinationsFrom labels steps state text, ∀ sign ∈ found, P sign := by
  induction steps generalizing state text with
  | zero => exact fun _ h => absurd h List.not_mem_nil
  | succ steps ih =>
      cases text with
      | nil => exact fun _ h => absurd h List.not_mem_nil
      | cons sign text =>
          obtain ⟨first, others⟩ := List.forall_mem_cons.mp signs
          obtain ⟨hstate, hrest⟩ := keeps_step labels newline space first all others
          intro found member
          rcases List.mem_append.mp member with own | later
          · exact fun other h => others other (destination?_subset (Option.mem_toList.mp own) h)
          · exact ih hstate hrest found later

/-- The destinations in a source have no signs but those of the source, line feeds and spaces. -/
theorem signs_destinations (labels : List Text) (newline : P Sign.newline) (space : P Sign.space)
    {source : Text} (signs : ∀ sign ∈ source, P sign) :
    ∀ found ∈ destinations labels source, ∀ sign ∈ found, P sign :=
  signs_destinationsFrom labels newline space _ (fun _ h => absurd h List.not_mem_nil)
    fun sign h => signs sign ((Text.trim_isInfix _ _).subset h)

/-! ## (3) Texts without links -/

/-- Where no bracket is open, a closing one makes no link. -/
theorem destination?_eq_none {state : State} {sign : Nat} (rest : Text)
    (all : state.All (isMarkup · = false)) (plain : isMarkup sign = false) :
    destination? state sign rest = none := by
  rw [destination?]
  split
  · split
    · rename_i image behind _ h
      have opened := all _ (openBracket?_eq_some h ▸ List.mem_append_right _ List.mem_cons_self)
      -- an open bracket is shown as one, of a link or of an image
      have bracket : Sign.leftBracket ∈ (Piece.bracket image true behind).content := by
        cases image with
        | false => exact List.mem_cons_self
        | true => exact List.mem_cons_of_mem _ List.mem_cons_self
      cases opened _ bracket
    · rfl
  · have other : ¬(decide (sign = Sign.lessThan) && !state.inAnchor) = true := by
      rw [Bool.and_eq_true, decide_eq_true_eq]
      rintro ⟨rfl, -⟩
      cases plain
    rw [if_neg other]

theorem destinationsFrom_eq_nil (labels : List Text) (steps : Nat) {state : State} {text : Text}
    (all : state.All (isMarkup · = false)) (unmarked : ∀ sign ∈ text, isMarkup sign = false) :
    destinationsFrom labels steps state text = [] := by
  induction steps generalizing state text with
  | zero => rfl
  | succ steps ih =>
      cases text with
      | nil => rfl
      | cons sign text =>
          obtain ⟨first, others⟩ := List.forall_mem_cons.mp unmarked
          have newline : isMarkup Sign.newline = false := rfl
          have space : isMarkup Sign.space = false := rfl
          obtain ⟨hstate, hrest⟩ := keeps_step labels newline space first all others
          rw [destinationsFrom, destination?_eq_none text all first]
          exact ih hstate hrest

/-- A source without marks has no links. -/
theorem destinations_eq_nil (labels : List Text) {source : Text}
    (unmarked : ∀ sign ∈ source, isMarkup sign = false) : destinations labels source = [] :=
  destinationsFrom_eq_nil labels _ (fun _ h => absurd h List.not_mem_nil)
    fun sign h => unmarked sign ((Text.trim_isInfix _ _).subset h)

end Inline

end Coursework.Markdown
