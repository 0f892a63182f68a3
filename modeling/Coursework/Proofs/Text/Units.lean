import Coursework.Proofs.Text.Lines
import Coursework.Proofs.Text.Trimming
import Coursework.Text.Encoding
import Mathlib.Data.List.DropRight

/-! # UTF-16 units of a text

A document counts its positions in UTF-16 units, of which a code point beyond U+FFFF has two.

* **`Text.utf16`** are the units themselves; `length_utf16` ties them to their number
  `Text.units`.
* **`utf16Length_eq_ok`** and **`hasSurrogate_of_utf16Length`**: a text has a length exactly if it
  has no surrogate. -/

namespace Coursework

namespace Sign

/-- The UTF-16 units of a code point: itself, or a pair of surrogates beyond U+FFFF. -/
def utf16 (sign : Nat) : List Nat :=
  if sign < 0x10000 then [sign]
  else [0xD800 + (sign - 0x10000) / 0x400, 0xDC00 + (sign - 0x10000) % 0x400]

@[simp] theorem length_utf16 (sign : Nat) : (utf16 sign).length = units sign := by
  rw [utf16, units]
  split <;> rfl

/-- A line feed is one unit. -/
@[simp] theorem utf16_newline : utf16 newline = [newline] := rfl

/-- A line feed counts once. -/
@[simp] theorem units_newline : units newline = 1 := rfl

end Sign

namespace Text

/-! ## (1) Counting units -/

@[simp] theorem units_nil : units [] = 0 := rfl

@[simp] theorem units_cons (sign : Nat) (text : Text) :
    units (sign :: text) = Sign.units sign + units text := rfl

@[simp] theorem units_append (first second : Text) :
    units (first ++ second) = units first + units second := by
  induction first with
  | nil => simp
  | cons sign first ih =>
      rw [List.cons_append, units_cons, units_cons, ih, Nat.add_assoc]

/-- The UTF-16 units of a text in order. -/
def utf16 (text : Text) : List Nat := text.flatMap Sign.utf16

@[simp] theorem utf16_nil : utf16 [] = [] := rfl

@[simp] theorem utf16_append (first second : Text) :
    utf16 (first ++ second) = utf16 first ++ utf16 second := List.flatMap_append

/-- The units are as many as are counted. -/
@[simp] theorem length_utf16 (text : Text) : (utf16 text).length = units text := by
  induction text with
  | nil => rfl
  | cons sign text ih =>
      rw [utf16, List.flatMap_cons, List.length_append, Sign.length_utf16, units_cons]
      exact congrArg _ ih

/-! ## (2) Texts without surrogates -/

theorem hasSurrogate_eq_false_iff {text : Text} :
    text.hasSurrogate = false ↔ ∀ sign ∈ text, Sign.isSurrogate sign = false := by
  simp [hasSurrogate]

theorem hasSurrogate_cons (sign : Nat) (text : Text) :
    hasSurrogate (sign :: text) = (Sign.isSurrogate sign || text.hasSurrogate) :=
  List.any_cons

@[simp] theorem hasSurrogate_nil : hasSurrogate [] = false := rfl

/-- A sign below U+D800 is no surrogate. -/
theorem isSurrogate_of_lt {sign : Nat} (below : sign < 0xD800) :
    Sign.isSurrogate sign = false := by
  rw [Sign.isSurrogate, Bool.and_eq_false_iff, decide_eq_false_iff_not]
  exact .inl (by omega)

/-- A sign below U+D800 makes no difference. -/
theorem hasSurrogate_cons_of_lt {sign : Nat} (below : sign < 0xD800) (text : Text) :
    hasSurrogate (sign :: text) = text.hasSurrogate := by
  rw [hasSurrogate_cons, isSurrogate_of_lt below, Bool.false_or]

@[simp] theorem hasSurrogate_append (first second : Text) :
    hasSurrogate (first ++ second) = (hasSurrogate first || hasSurrogate second) :=
  List.any_append

theorem hasSurrogate_of_subset {part text : Text} (h : part ⊆ text)
    (plain : text.hasSurrogate = false) : part.hasSurrogate = false :=
  hasSurrogate_eq_false_iff.mpr fun sign hsign => hasSurrogate_eq_false_iff.mp plain sign (h hsign)

/-- Signs below U+D800 are no surrogates. -/
theorem hasSurrogate_of_forall_lt {text : Text} (below : ∀ sign ∈ text, sign < 0xD800) :
    text.hasSurrogate = false :=
  hasSurrogate_eq_false_iff.mpr fun sign h => isSurrogate_of_lt (below sign h)

theorem hasSurrogate_joinWith {joint : Text} {pieces : List Text}
    (hjoint : joint.hasSurrogate = false) (hpieces : ∀ piece ∈ pieces, piece.hasSurrogate = false) :
    (joinWith joint pieces).hasSurrogate = false := by
  refine hasSurrogate_eq_false_iff.mpr fun sign h => ?_
  rcases mem_joinWith h with h | ⟨piece, hpiece, h⟩
  · exact hasSurrogate_eq_false_iff.mp hjoint sign h
  · exact hasSurrogate_eq_false_iff.mp (hpieces piece hpiece) sign h

/-- No surrogate is white space. -/
theorem isBlank_of_isSurrogate {sign : Nat} (surrogate : Sign.isSurrogate sign = true) :
    Sign.isBlank sign = false := by
  simp only [Sign.isSurrogate, Bool.and_eq_true, decide_eq_true_eq] at surrogate
  simp only [Sign.isBlank, Bool.or_eq_false_iff, Bool.and_eq_false_iff, decide_eq_false_iff_not,
    beq_eq_false_iff_ne]
  omega

section Kept

variable {dropped : Nat → Bool}
  (kept : ∀ sign, Sign.isSurrogate sign = true → dropped sign = false) (text : Text)

include kept

/-- What drops no surrogate makes no difference. -/
theorem hasSurrogate_dropWhile :
    hasSurrogate (text.dropWhile dropped) = text.hasSurrogate := by
  cases plain : text.hasSurrogate with
  | false => exact hasSurrogate_of_subset (List.dropWhile_subset dropped) plain
  | true =>
      obtain ⟨sign, member, surrogate⟩ := List.any_eq_true.mp plain
      exact List.any_eq_true.mpr
        ⟨sign, mem_dropWhile_of_kept (kept sign surrogate) member, surrogate⟩

theorem hasSurrogate_trimEnd : (trimEnd dropped text).hasSurrogate = text.hasSurrogate := by
  cases plain : text.hasSurrogate with
  | false =>
      have part : trimEnd dropped text ⊆ text := (List.rdropWhile_prefix dropped text).subset
      exact hasSurrogate_of_subset part plain
  | true =>
      obtain ⟨sign, member, surrogate⟩ := List.any_eq_true.mp plain
      exact List.any_eq_true.mpr
        ⟨sign, mem_trimEnd_of_kept (kept sign surrogate) member, surrogate⟩

end Kept

@[simp] theorem hasSurrogate_stripEnd (text : Text) :
    text.stripEnd.hasSurrogate = text.hasSurrogate :=
  hasSurrogate_trimEnd (fun _ => isBlank_of_isSurrogate) text

@[simp] theorem hasSurrogate_strip (text : Text) :
    text.strip.hasSurrogate = text.hasSurrogate := by
  rw [strip, hasSurrogate_stripEnd]
  exact hasSurrogate_dropWhile (fun _ => isBlank_of_isSurrogate) text

/-! ## (3) Texts with an encoded form -/

/-- The signs before the first surrogate are all there are in a text without one. -/
theorem dropWhile_not_isSurrogate (text : Text) (plain : hasSurrogate text = false) :
    text.dropWhile (! Sign.isSurrogate ·) = [] := by
  rw [List.dropWhile_eq_nil_iff]
  intro sign member
  have h := List.any_eq_false.mp plain sign member
  simpa using h

/-- A text without surrogates has as its length the number of its units. -/
theorem utf16Length_eq_ok {text : Text} (plain : hasSurrogate text = false) :
    utf16Length text = .ok (units text) := by
  rw [utf16Length, dropWhile_not_isSurrogate text plain]

/-- A text with a length has no surrogate, and its length is the number of its units. -/
theorem hasSurrogate_of_utf16Length {text : Text} {length : Nat}
    (measured : utf16Length text = .ok length) :
    hasSurrogate text = false ∧ length = units text := by
  rw [utf16Length] at measured
  split at measured
  · rename_i h
    refine ⟨List.any_eq_false.mpr fun sign member => ?_, (Except.ok.inj measured).symm⟩
    have hsign := (List.dropWhile_eq_nil_iff.mp h) sign member
    simpa using hsign
  · cases measured

/-- A text has bytes exactly if it has no surrogate. -/
theorem exists_utf8_iff {text : Text} :
    (∃ bytes, utf8 text = .ok bytes) ↔ text.hasSurrogate = false := by
  constructor
  · rintro ⟨bytes, encoded⟩
    rw [utf8] at encoded
    split at encoded
    · rename_i h
      refine List.any_eq_false.mpr fun sign member => ?_
      simpa using (List.dropWhile_eq_nil_iff.mp h) sign member
    · cases encoded
  · intro plain
    rw [utf8, dropWhile_not_isSurrogate text plain]
    exact ⟨_, rfl⟩

end Text

end Coursework
