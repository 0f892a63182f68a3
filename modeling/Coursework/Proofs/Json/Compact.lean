import Coursework.Json.Compact
import Coursework.Proofs.Json.Literal

/-! # Values that can be written

A value can be written if its numbers are finite and no text in it has a surrogate. Numbers that
are not finite can be left out; surrogates cannot.

* **`Json.isPlain`** holds of values without surrogates; **`Json.hasSurrogate_compact`**: only
  these have a written form without any.
* **`Json.isFinite_finite`**: what is left without numbers that are not finite has none. -/

namespace Coursework.Json

/-! ## (1) Values without surrogates -/

mutual

/-- Whether no text in a value has a surrogate, the names of fields included. -/
def isPlain : Json → Bool
  | text value => !value.hasSurrogate
  | list items => arePlain items
  | object fields => havePlain fields
  | null | bool _ | int _ | float _ => true

/-- Whether no text in a list's items has a surrogate. -/
def arePlain : List Json → Bool
  | [] => true
  | item :: items => isPlain item && arePlain items

/-- Whether no text in an object's fields has a surrogate. -/
def havePlain : List (Text × Json) → Bool
  | [] => true
  | (name, value) :: fields => !name.hasSurrogate && isPlain value && havePlain fields

end

@[simp] theorem isPlain_text (value : Text) : (text value).isPlain = !value.hasSurrogate := by
  rw [isPlain]

@[simp] theorem isPlain_int (value : Int) : (int value).isPlain = true := by
  rw [isPlain]

@[simp] theorem isPlain_list (items : List Json) : (list items).isPlain = arePlain items := by
  rw [isPlain]

@[simp] theorem isPlain_object (fields : List (Text × Json)) :
    (object fields).isPlain = havePlain fields := by
  rw [isPlain]

theorem arePlain_eq_true_iff {items : List Json} :
    arePlain items = true ↔ ∀ item ∈ items, item.isPlain = true := by
  induction items with
  | nil => simp [arePlain]
  | cons item items ih => simp [arePlain, ih]

theorem isPlain_texts {values : List Text} :
    (texts values).isPlain = true ↔ ∀ value ∈ values, value.hasSurrogate = false := by
  simp [texts, arePlain_eq_true_iff]

theorem isPlain_textOrNull {value : Option Text} :
    (textOrNull value).isPlain = true ↔ ∀ content ∈ value, content.hasSurrogate = false := by
  cases value with
  | none => simp [textOrNull, isPlain]
  | some content => simp [textOrNull]

/-! ## (2) Written forms -/

/-- An escape of a unit is ASCII. -/
theorem hasSurrogate_escapeUnit (unit : Nat) : (escapeUnit unit).hasSurrogate = false := by
  rw [escapeUnit, Text.hasSurrogate_append,
    Text.hasSurrogate_of_forall_lt fun sign h => Text.hexadecimal_lt h]
  decide

/-- No sign becomes a surrogate when it is escaped. -/
theorem hasSurrogate_writeSign {sign : Nat} (plain : Sign.isSurrogate sign = false) :
    (writeSign sign).hasSurrogate = false := by
  have hbackslash : Sign.isSurrogate Sign.backslash = false := by decide
  rw [writeSign]
  repeat' split
  · simp [plain, hbackslash, Text.hasSurrogate]
  · simp [Text.hasSurrogate, plain]
  · decide
  · decide
  · decide
  · decide
  · decide
  · exact hasSurrogate_escapeUnit sign
  · rw [Text.hasSurrogate_append, hasSurrogate_escapeUnit, hasSurrogate_escapeUnit]
    rfl

/-- A surrogate is written as it is, and no other sign as one. -/
theorem hasSurrogate_plainSign (sign : Nat) :
    (plainSign sign).hasSurrogate = Sign.isSurrogate sign := by
  rw [plainSign]
  split
  · simp [Text.hasSurrogate]
  · rename_i escaped
    have plain : Sign.isSurrogate sign = false := by
      rw [← Bool.not_eq_true]
      intro surrogate
      rw [Sign.isSurrogate, Bool.and_eq_true, decide_eq_true_eq, decide_eq_true_eq] at surrogate
      refine escaped ?_
      simp only [Bool.and_eq_true, decide_eq_true_eq, bne_iff_ne]
      refine ⟨⟨Nat.le_trans (by decide) surrogate.1, ?_⟩, ?_⟩
      · rintro rfl
        exact absurd surrogate.1 (by decide)
      · rintro rfl
        exact absurd surrogate.1 (by decide)
    rw [plain, hasSurrogate_writeSign plain]

theorem hasSurrogate_plainText (value : Text) :
    (plainText value).hasSurrogate = value.hasSurrogate := by
  have signs : Text.hasSurrogate (value.flatMap plainSign) = value.hasSurrogate := by
    induction value with
    | nil => rfl
    | cons sign value ih =>
        rw [List.flatMap_cons, Text.hasSurrogate_append, hasSurrogate_plainSign, ih]
        rfl
  rw [plainText, Text.hasSurrogate_append, Text.hasSurrogate_cons_of_lt (by decide), signs]
  exact Bool.or_false _

theorem hasSurrogate_writeFloat (value : Binary64) : (writeFloat value).hasSurrogate = false := by
  cases value with
  | nan => decide
  | infinite negative => cases negative <;> decide
  | finite negative significand exponent =>
      exact (Binary64.finite negative significand exponent).hasSurrogate_toText

mutual

/-- The written form of a value has a surrogate exactly if some text in the value has. -/
theorem hasSurrogate_compact : (value : Json) → value.compact.hasSurrogate = !value.isPlain
  | .null => by decide
  | .bool true => by decide
  | .bool false => by decide
  | .int value => by
      rw [compact, Text.hasSurrogate_ofInt, isPlain]
      rfl
  | .float value => by
      rw [compact, hasSurrogate_writeFloat, isPlain]
      rfl
  | .text value => by
      rw [compact, hasSurrogate_plainText, isPlain, Bool.not_not]
  | .list items => by
      rw [compact, Text.hasSurrogate_append, Text.hasSurrogate_cons_of_lt (by decide),
        hasSurrogate_compactItems items, isPlain]
      exact Bool.or_false _
  | .object fields => by
      rw [compact, Text.hasSurrogate_append, Text.hasSurrogate_cons_of_lt (by decide),
        hasSurrogate_compactFields fields, isPlain]
      exact Bool.or_false _

theorem hasSurrogate_compactItems :
    (items : List Json) → (compactItems items).hasSurrogate = !arePlain items
  | [] => by
      rw [arePlain]
      rfl
  | [item] => by
      rw [compactItems, hasSurrogate_compact item, arePlain, arePlain, Bool.and_true]
  | item :: next :: items => by
      rw [compactItems, Text.hasSurrogate_append, Text.hasSurrogate_cons_of_lt (by decide),
        hasSurrogate_compact item, hasSurrogate_compactItems (next :: items), arePlain.eq_2 item,
        Bool.not_and]

theorem hasSurrogate_compactFields :
    (fields : List (Text × Json)) → (compactFields fields).hasSurrogate = !havePlain fields
  | [] => by
      rw [havePlain]
      rfl
  | [(name, value)] => by
      rw [compactFields, Text.hasSurrogate_append, Text.hasSurrogate_cons_of_lt (by decide),
        hasSurrogate_plainText, hasSurrogate_compact value, havePlain, havePlain]
      simp
  | (name, value) :: next :: fields => by
      rw [compactFields, Text.hasSurrogate_append, Text.hasSurrogate_append,
        Text.hasSurrogate_cons_of_lt (by decide), Text.hasSurrogate_cons_of_lt (by decide),
        hasSurrogate_plainText, hasSurrogate_compact value,
        hasSurrogate_compactFields (next :: fields), havePlain.eq_2 name value, Bool.not_and,
        Bool.not_and, Bool.not_not]

end

/-! ## (3) Finite numbers -/

theorem areFinite_eq_true_iff {items : List Json} :
    areFinite items = true ↔ ∀ item ∈ items, item.isFinite = true := by
  induction items with
  | nil => simp [areFinite]
  | cons item items ih => simp [areFinite, ih]

theorem isFinite_texts (values : List Text) : (texts values).isFinite = true := by
  rw [texts, isFinite, areFinite_eq_true_iff, List.forall_mem_map]
  intro value _
  rw [isFinite]

theorem isFinite_textOrNull (value : Option Text) : (textOrNull value).isFinite = true := by
  cases value <;> rw [textOrNull, isFinite]

mutual

/-- Without numbers that are not finite, all numbers are finite. -/
theorem isFinite_finite : (value : Json) → value.finite.isFinite = true
  | .null | .bool _ | .int _ | .text _ => by rw [finite, isFinite]
  | .float value => by
      rw [finite]
      split
      · rename_i h
        rwa [isFinite]
      · rw [isFinite]
  | .list items => by
      rw [finite, isFinite]
      exact areFinite_finiteItems items
  | .object fields => by
      rw [finite, isFinite]
      exact haveFinite_finiteFields fields

theorem areFinite_finiteItems : (items : List Json) → areFinite (finiteItems items) = true
  | [] => by rw [finiteItems, areFinite]
  | item :: items => by
      rw [finiteItems, areFinite, isFinite_finite item, areFinite_finiteItems items]
      rfl

theorem haveFinite_finiteFields :
    (fields : List (Text × Json)) → haveFinite (finiteFields fields) = true
  | [] => by rw [finiteFields, haveFinite]
  | (name, value) :: fields => by
      rw [finiteFields, haveFinite, isFinite_finite value, haveFinite_finiteFields fields]
      rfl

end

mutual

/-- The texts stay as they are. -/
theorem isPlain_finite : (value : Json) → value.finite.isPlain = value.isPlain
  | .null | .bool _ | .int _ | .text _ => by rw [finite]
  | .float value => by
      rw [finite]
      split
      · rfl
      · rw [isPlain.eq_def, isPlain.eq_def]
  | .list items => by
      rw [finite, isPlain, isPlain]
      exact arePlain_finiteItems items
  | .object fields => by
      rw [finite, isPlain, isPlain]
      exact havePlain_finiteFields fields

theorem arePlain_finiteItems : (items : List Json) → arePlain (finiteItems items) = arePlain items
  | [] => by rw [finiteItems]
  | item :: items => by
      rw [finiteItems, arePlain, isPlain_finite item, arePlain_finiteItems items, arePlain]

theorem havePlain_finiteFields :
    (fields : List (Text × Json)) → havePlain (finiteFields fields) = havePlain fields
  | [] => by rw [finiteFields]
  | (name, value) :: fields => by
      rw [finiteFields, havePlain, isPlain_finite value, havePlain_finiteFields fields, havePlain]

end

end Coursework.Json
