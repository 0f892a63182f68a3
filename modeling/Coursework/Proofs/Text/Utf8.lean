import Coursework.Proofs.Text.Units

/-! # Reading back what is written in UTF-8

A text of code points that are no surrogates is read back from its bytes as it was, also by the
reader that keeps stray bytes.

* **`Sign.isScalar`** are those code points, **`Text.IsScalar`** the texts of them.
* **`Text.ofUtf8Stray_flatMap`** and **`Text.ofUtf8_flatMap`** are the statement for either reader.
* **`Text.encodeStray_eq_ok`**: what an encoded form with stray bytes admits. -/

namespace Coursework

/-- The code points that are no surrogates. -/
def Sign.isScalar (sign : Nat) : Bool := sign < 0x110000 && !Sign.isSurrogate sign

namespace Text

/-- A text of such code points. -/
def IsScalar (text : Text) : Prop := ∀ sign ∈ text, Sign.isScalar sign = true

instance (text : Text) : Decidable (IsScalar text) :=
  inferInstanceAs (Decidable (∀ sign ∈ text, Sign.isScalar sign = true))

theorem IsScalar.of_subset {part text : Text} (scalar : IsScalar text) (h : part ⊆ text) :
    IsScalar part := fun sign member => scalar sign (h member)

theorem isScalar_append {first second : Text} :
    IsScalar (first ++ second) ↔ IsScalar first ∧ IsScalar second := List.forall_mem_append

/-- ASCII texts are such. -/
theorem isScalar_of_forall_lt {text : Text} (ascii : ∀ sign ∈ text, sign < 0x80) :
    IsScalar text := by
  intro sign member
  have := ascii sign member
  rw [Sign.isScalar, isSurrogate_of_lt (by omega), decide_eq_true (by omega)]
  rfl

/-! ## (1) One code point -/

section CodePoint

variable {sign : Nat}

theorem utf8Bytes_lt (below : sign < 0x110000) : ∀ byte ∈ utf8Bytes sign, byte < 0x100 := by
  rw [utf8Bytes]
  split
  · simp; omega
  · split
    · simp; omega
    · split <;> simp <;> omega

/-- The first of three bytes and the range that it asks for. -/
theorem exists_utf8Opening?_three (long : 0x800 ≤ sign) (short : sign < 0x10000)
    (scalar : Sign.isSurrogate sign = false) :
    ∃ low high, utf8Opening? (0xE0 + sign / 0x1000) = some (2, low, high) ∧
      low ≤ 0x80 + sign / 0x40 % 0x40 ∧ 0x80 + sign / 0x40 % 0x40 ≤ high := by
  simp only [Sign.isSurrogate, Bool.and_eq_false_iff, decide_eq_false_iff_not] at scalar
  simp only [utf8Opening?, Bool.and_eq_true, decide_eq_true_eq]
  rw [if_neg (by omega), if_neg (by omega)]
  split
  · exact ⟨_, _, rfl, by omega, by omega⟩
  · split
    · exact ⟨_, _, rfl, by omega, by omega⟩
    · rw [if_pos (by omega)]
      exact ⟨_, _, rfl, by omega, by omega⟩

/-- The first of four. -/
theorem exists_utf8Opening?_four (long : 0x10000 ≤ sign) (short : sign < 0x110000) :
    ∃ low high, utf8Opening? (0xF0 + sign / 0x40000) = some (3, low, high) ∧
      low ≤ 0x80 + sign / 0x1000 % 0x40 ∧ 0x80 + sign / 0x1000 % 0x40 ≤ high := by
  simp only [utf8Opening?, Bool.and_eq_true, decide_eq_true_eq]
  rw [if_neg (by omega), if_neg (by omega), if_neg (by omega), if_neg (by omega),
    if_neg (by omega)]
  split
  · exact ⟨_, _, rfl, by omega, by omega⟩
  · split
    · exact ⟨_, _, rfl, by omega, by omega⟩
    · rw [if_pos (by omega)]
      exact ⟨_, _, rfl, by omega, by omega⟩

/-- The bytes of a code point are found at the start of bytes. -/
theorem utf8Width?_utf8Bytes (scalar : Sign.isScalar sign = true) (bytes : List Nat) :
    utf8Width? (utf8Bytes sign ++ bytes) = some (utf8Bytes sign).length ∧
      ofUtf8 (utf8Bytes sign) = .ok [sign] := by
  simp only [Sign.isScalar, Bool.and_eq_true, decide_eq_true_eq, Bool.not_eq_true'] at scalar
  obtain ⟨below, scalar⟩ := scalar
  rw [utf8Bytes]
  split
  · rename_i one
    have opening : utf8Opening? sign = some (0, 0x80, 0xBF) := if_pos one
    simp [utf8Width?, List.range', ofUtf8, ofUtf8From, opening, Except.map]
  · split
    · rename_i least two
      have opening : utf8Opening? (0xC0 + sign / 0x40) = some (1, 0x80, 0xBF) := by
        simp only [utf8Opening?, Bool.and_eq_true, decide_eq_true_eq]
        rw [if_neg (by omega), if_pos (by omega)]
      have value : sign / 0x40 * 0x40 + sign % 0x40 = sign := by omega
      have within : 0x80 + sign % 0x40 ≤ 0xBF := by omega
      simp [utf8Width?, List.range', ofUtf8, ofUtf8From, opening, Except.map, value, within]
    · split
      · rename_i least three
        obtain ⟨low, high, opening, hlow, hhigh⟩ :=
          exists_utf8Opening?_three (by omega) three scalar
        have value : (sign / 0x1000 * 0x40 + sign / 0x40 % 0x40) * 0x40 + sign % 0x40 = sign := by
          omega
        have within : 0x80 + sign % 0x40 ≤ 0xBF := by omega
        simp [utf8Width?, List.range', ofUtf8, ofUtf8From, opening, Except.map, value, within,
          hlow, hhigh]
      · have long : 0x10000 ≤ sign := by omega
        obtain ⟨low, high, opening, hlow, hhigh⟩ := exists_utf8Opening?_four long below
        have value : ((sign / 0x40000 * 0x40 + sign / 0x1000 % 0x40) * 0x40 +
            sign / 0x40 % 0x40) * 0x40 + sign % 0x40 = sign := by omega
        have within : 0x80 + sign % 0x40 ≤ 0xBF := by omega
        have inner : 0x80 + sign / 0x40 % 0x40 ≤ 0xBF := by omega
        simp [utf8Width?, List.range', ofUtf8, ofUtf8From, opening, Except.map, value, within,
          inner, hlow, hhigh]

/-- The bytes of a code point are read as it, and the others behind them. -/
theorem ofUtf8From_utf8Bytes (scalar : Sign.isScalar sign = true) (position : Nat)
    (bytes : List Nat) :
    ∃ next, ofUtf8From .between position (utf8Bytes sign ++ bytes) =
      (ofUtf8From .between next bytes).map (sign :: ·) := by
  simp only [Sign.isScalar, Bool.and_eq_true, decide_eq_true_eq, Bool.not_eq_true'] at scalar
  obtain ⟨below, scalar⟩ := scalar
  rw [utf8Bytes]
  split
  · rename_i one
    have opening : utf8Opening? sign = some (0, 0x80, 0xBF) := if_pos one
    exact ⟨position + 1, by simp [ofUtf8From, opening]⟩
  · split
    · rename_i least two
      have opening : utf8Opening? (0xC0 + sign / 0x40) = some (1, 0x80, 0xBF) := by
        simp only [utf8Opening?, Bool.and_eq_true, decide_eq_true_eq]
        rw [if_neg (by omega), if_pos (by omega)]
      have value : sign / 0x40 * 0x40 + sign % 0x40 = sign := by omega
      have within : 0x80 + sign % 0x40 ≤ 0xBF := by omega
      exact ⟨position + 1 + 1, by simp [ofUtf8From, opening, value, within]⟩
    · split
      · rename_i least three
        obtain ⟨low, high, opening, hlow, hhigh⟩ :=
          exists_utf8Opening?_three (by omega) three scalar
        have value : (sign / 0x1000 * 0x40 + sign / 0x40 % 0x40) * 0x40 + sign % 0x40 = sign := by
          omega
        have within : 0x80 + sign % 0x40 ≤ 0xBF := by omega
        exact ⟨position + 1 + 1 + 1,
          by simp [ofUtf8From, opening, value, within, hlow, hhigh]⟩
      · have long : 0x10000 ≤ sign := by omega
        obtain ⟨low, high, opening, hlow, hhigh⟩ := exists_utf8Opening?_four long below
        have value : ((sign / 0x40000 * 0x40 + sign / 0x1000 % 0x40) * 0x40 +
            sign / 0x40 % 0x40) * 0x40 + sign % 0x40 = sign := by omega
        have within : 0x80 + sign % 0x40 ≤ 0xBF := by omega
        have inner : 0x80 + sign / 0x40 % 0x40 ≤ 0xBF := by omega
        exact ⟨position + 1 + 1 + 1 + 1,
          by simp [ofUtf8From, opening, value, within, inner, hlow, hhigh]⟩

end CodePoint

/-! ## (2) Texts -/

/-- A text without surrogates is read back from its bytes. -/
theorem ofUtf8Stray_flatMap {text : Text} (scalar : IsScalar text) :
    ofUtf8Stray (text.flatMap utf8Bytes) = text := by
  induction text with
  | nil => rw [List.flatMap_nil, ofUtf8Stray]
  | cons sign text ih =>
      obtain ⟨first, others⟩ := List.forall_mem_cons.mp scalar
      obtain ⟨width, found⟩ := utf8Width?_utf8Bytes first (text.flatMap utf8Bytes)
      obtain ⟨byte, bytes, split⟩ : ∃ byte bytes, utf8Bytes sign = byte :: bytes := by
        rw [utf8Bytes]
        split
        · exact ⟨_, _, rfl⟩
        · split
          · exact ⟨_, _, rfl⟩
          · split <;> exact ⟨_, _, rfl⟩
      rw [split, List.cons_append] at width
      rw [split] at found
      rw [List.flatMap_cons, split, List.cons_append, ofUtf8Stray, width]
      dsimp only
      rw [← List.cons_append, List.take_left, found, List.length_cons, Nat.add_sub_cancel,
        List.drop_left, ih others]
      rfl

/-- So is it by the reader that refuses other bytes. -/
theorem ofUtf8_flatMap {text : Text} (scalar : IsScalar text) :
    ofUtf8 (text.flatMap utf8Bytes) = .ok text := by
  have everywhere (position : Nat) : ofUtf8From .between position (text.flatMap utf8Bytes) =
      .ok text := by
    induction text generalizing position with
    | nil => rfl
    | cons sign text ih =>
        obtain ⟨first, others⟩ := List.forall_mem_cons.mp scalar
        obtain ⟨next, read⟩ := ofUtf8From_utf8Bytes first position (text.flatMap utf8Bytes)
        rw [List.flatMap_cons, read, ih others]
        rfl
  exact everywhere 0

theorem utf8_eq_ok {text : Text} (plain : text.hasSurrogate = false) :
    utf8 text = .ok (text.flatMap utf8Bytes) := by
  rw [utf8, dropWhile_not_isSurrogate text plain]

theorem IsScalar.hasSurrogate {text : Text} (scalar : IsScalar text) :
    text.hasSurrogate = false := by
  refine hasSurrogate_eq_false_iff.mpr fun sign member => ?_
  have := scalar sign member
  rw [Sign.isScalar, Bool.and_eq_true, Bool.not_eq_true'] at this
  exact this.2

theorem isScalar_of_hasSurrogate {text : Text} (plain : text.hasSurrogate = false)
    (codes : ∀ sign ∈ text, sign < 0x110000) : IsScalar text := fun sign member => by
  rw [Sign.isScalar, hasSurrogate_eq_false_iff.mp plain sign member,
    decide_eq_true (codes sign member)]
  rfl

/-- What is written are bytes. -/
theorem IsScalar.utf8Bytes_lt {text : Text} (scalar : IsScalar text) :
    ∀ byte ∈ text.flatMap utf8Bytes, byte < 0x100 := by
  intro byte member
  obtain ⟨sign, inside, h⟩ := List.mem_flatMap.mp member
  have := scalar sign inside
  rw [Sign.isScalar, Bool.and_eq_true, decide_eq_true_eq] at this
  exact Text.utf8Bytes_lt this.1 byte h

/-! ## (3) Stray bytes -/

/-- Admitted signs have an encoded form, with or without stray bytes. -/
theorem encodeStray_eq_ok {encoding : Encoding} {admitted : Nat → Bool} {bytes : Nat → List Nat}
    {text : Text} (fits : ∀ sign ∈ text, admitted sign = true ∧ strayByte? sign = none) :
    encodeStray encoding admitted bytes text = .ok (text.flatMap bytes) := by
  have whole : (text.dropWhile fun sign => admitted sign || (strayByte? sign).isSome) = [] := by
    rw [List.dropWhile_eq_nil_iff]
    intro sign member
    rw [(fits sign member).1, Bool.true_or]
  rw [encodeStray, whole]
  refine congrArg Except.ok (List.flatMap_congr fun sign member => ?_)
  rw [(fits sign member).2]

theorem strayByte?_of_not_isSurrogate {sign : Nat} (plain : Sign.isSurrogate sign = false) :
    strayByte? sign = none := by
  simp only [Sign.isSurrogate, Bool.and_eq_false_iff, decide_eq_false_iff_not] at plain
  rw [strayByte?, if_neg]
  simp only [Bool.and_eq_true, decide_eq_true_eq]
  omega

/-- An ASCII text is its own form. -/
theorem asciiStray_eq_ok {text : Text} (ascii : ∀ sign ∈ text, sign < 0x80) :
    asciiStray text = .ok text := by
  rw [asciiStray, encodeStray_eq_ok fun sign member => ⟨?_, ?_⟩, List.flatMap_singleton']
  · exact decide_eq_true (ascii sign member)
  · exact strayByte?_of_not_isSurrogate (isSurrogate_of_lt (by have := ascii sign member; omega))

theorem utf8Stray_eq_ok {text : Text} (plain : text.hasSurrogate = false) :
    utf8Stray text = .ok (text.flatMap utf8Bytes) := by
  refine encodeStray_eq_ok fun sign member => ?_
  have := hasSurrogate_eq_false_iff.mp plain sign member
  exact ⟨by rw [this]; rfl, strayByte?_of_not_isSurrogate this⟩

end Text

end Coursework
