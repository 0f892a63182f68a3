import Coursework.Json.Literal
import Coursework.Proofs.Text.Numeral
import Coursework.Proofs.Text.Units
import Mathlib.Data.List.Basic

/-! # Signs of literals

A literal escapes every sign that is not printable, so it has an encoded form whatever the texts in
the value are.

* **`Sign.isSurrogate_of_isPrintable`**: no surrogate is printable.
* **`Json.hasSurrogate_literal`**: no literal has a surrogate. -/

namespace Coursework

/-! ## (1) Printable signs -/

/-- No surrogate is printable. -/
theorem Sign.isSurrogate_of_isPrintable {sign : Nat} (h : isPrintable sign = true) :
    isSurrogate sign = false := by
  have gap : (0xD7FC, 0xF8FF) ∈ unprintable.toList := by decide +kernel
  rw [isPrintable, Bool.and_eq_true, Bool.not_eq_true', ← Array.any_toList, List.any_eq_false] at h
  have hgap := h.2 _ gap
  simp only [Bool.and_eq_true, decide_eq_true_eq] at hgap
  simp only [isSurrogate, Bool.and_eq_false_iff, decide_eq_false_iff_not]
  omega

namespace Text

theorem hexadecimal_lt {width number sign : Nat} (h : sign ∈ hexadecimal width number) :
    sign < 0xD800 := by
  induction width generalizing number with
  | zero => exact absurd h List.not_mem_nil
  | succ width ih =>
      rw [hexadecimal, List.mem_append, List.mem_singleton] at h
      rcases h with h | rfl
      · exact ih h
      · rw [Sign.hexDigit]
        split <;> omega

/-- A sign in quotes is escaped unless it is printable. -/
theorem hasSurrogate_quotedWith {quote : Nat} (ascii : quote < 0x80) (sign : Nat) :
    hasSurrogate (Sign.quotedWith quote sign) = false := by
  rw [Sign.quotedWith]
  split
  -- the quote and the backslash are escaped by a backslash
  · rename_i h
    have hsign : sign < 0xD800 := by
      simp only [Bool.or_eq_true, decide_eq_true_eq] at h
      rcases h with rfl | rfl
      · exact Nat.lt_trans ascii (by decide)
      · decide
    refine hasSurrogate_of_forall_lt (List.forall_mem_cons.mpr ⟨by decide, ?_⟩)
    exact List.forall_mem_singleton.mpr hsign
  · split
    · decide
    · split
      · decide
      · split
        · decide
        · split
          -- what is printable is shown as it is, everything else by its hexadecimal digits
          · rename_i h
            rw [hasSurrogate, List.any_cons, Sign.isSurrogate_of_isPrintable h]
            rfl
          · have digits (width : Nat) : hasSurrogate (hexadecimal width sign) = false :=
              hasSurrogate_of_forall_lt fun other h => hexadecimal_lt h
            split
            · rw [hasSurrogate_append, digits]
              decide
            · split
              · rw [hasSurrogate_append, digits]
                decide
              · rw [hasSurrogate_append, digits]
                decide

theorem hasSurrogate_quoted (text : Text) : hasSurrogate text.quoted = false := by
  have ascii : text.quoteFor < 0x80 := by
    rw [quoteFor]
    split <;> decide
  have hquote : Sign.isSurrogate text.quoteFor = false := by
    rw [Sign.isSurrogate, Bool.and_eq_false_iff, decide_eq_false_iff_not]
    exact .inl (by omega)
  refine hasSurrogate_eq_false_iff.mpr (List.forall_mem_cons.mpr ⟨hquote, ?_⟩)
  refine List.forall_mem_append.mpr ⟨fun sign h => ?_, ?_⟩
  · obtain ⟨other, -, hsign⟩ := List.mem_flatMap.mp h
    exact hasSurrogate_eq_false_iff.mp (hasSurrogate_quotedWith ascii other) sign hsign
  · exact List.forall_mem_singleton.mpr hquote

end Text

/-! ## (2) Numbers -/

theorem Text.hasSurrogate_ofInt (number : Int) : hasSurrogate (ofInt number) = false := by
  cases number with
  | ofNat number => exact hasSurrogate_ofNat number
  | negSucc number => exact hasSurrogate_ofNat (number + 1)

namespace Binary64

theorem hasSurrogate_exponentText (exponent : Int) :
    (exponentText exponent).hasSurrogate = false := by
  have digits := Text.hasSurrogate_ofNat exponent.natAbs
  rw [exponentText, Text.hasSurrogate_cons]
  split <;> split <;> simp only [Text.hasSurrogate_cons, digits] <;> rfl

theorem hasSurrogate_zeros (count : Nat) :
    Text.hasSurrogate (List.replicate count Sign.zero) = false := by
  refine Text.hasSurrogate_of_forall_lt fun sign h => ?_
  rw [List.eq_of_mem_replicate h]
  decide

theorem hasSurrogate_decimalText {digits : Text} (plain : digits.hasSurrogate = false)
    (exponent : Int) : (decimalText digits exponent).hasSurrogate = false := by
  have hexponent := hasSurrogate_exponentText exponent
  have hletter : Text.hasSurrogate "e" = false := by decide
  have hpoint : Sign.isSurrogate Sign.fullStop = false := by decide
  rw [decimalText.eq_def]
  split
  -- a single digit and several digits with an exponent
  · split
    · rfl
    · rw [Text.hasSurrogate_cons, Bool.or_eq_false_iff] at plain
      rw [Text.hasSurrogate_append, Text.hasSurrogate_cons, plain.1, hexponent]
      decide
    · rw [Text.hasSurrogate_cons, Bool.or_eq_false_iff] at plain
      rw [Text.hasSurrogate_append, Text.hasSurrogate_append, Text.hasSurrogate_cons,
        Text.hasSurrogate_cons, plain.1, plain.2, hexponent, hletter, hpoint]
      rfl
  · split
    -- a number without an exponent is padded on the left or on the right
    · rw [Text.hasSurrogate_append, Text.hasSurrogate_append, hasSurrogate_zeros, plain]
      decide
    · have hpadded : Text.hasSurrogate (digits ++
          List.replicate (exponent.toNat + 1 - digits.length) Sign.zero) = false := by
        rw [Text.hasSurrogate_append, plain, hasSurrogate_zeros]
        rfl
      have hwhole := Text.hasSurrogate_of_subset (List.take_subset (exponent.toNat + 1) _) hpadded
      have hfraction :=
        Text.hasSurrogate_of_subset (List.drop_subset (exponent.toNat + 1) _) hpadded
      simp only
      rw [Text.hasSurrogate_append, Text.hasSurrogate_cons, hwhole, hpoint]
      split
      · decide
      · rw [hfraction]
        rfl

theorem hasSurrogate_toText (number : Binary64) : number.toText.hasSurrogate = false := by
  cases number with
  | finite negative significand exponent =>
      have hsign : Text.hasSurrogate (if negative = true then [Sign.hyphen] else []) = false := by
        cases negative <;> rfl
      rw [toText, Text.hasSurrogate_append, hsign, Bool.false_or]
      split
      · decide
      · exact hasSurrogate_decimalText (Text.hasSurrogate_ofNat _) _
  | infinite negative => cases negative <;> decide
  | nan => decide

end Binary64

/-! ## (3) Values -/

namespace Json

mutual

/-- No literal has a surrogate. -/
theorem hasSurrogate_literal : (value : Json) → value.literal.hasSurrogate = false
  | .null => by decide
  | .bool true => by decide
  | .bool false => by decide
  | .int value => Text.hasSurrogate_ofInt value
  | .float value => value.hasSurrogate_toText
  | .text value => value.hasSurrogate_quoted
  | .list items => by
      rw [literal, Text.hasSurrogate_append, Text.hasSurrogate_cons,
        hasSurrogate_literalItems items]
      rfl
  | .object fields => by
      rw [literal, Text.hasSurrogate_append, Text.hasSurrogate_cons,
        hasSurrogate_literalFields fields]
      rfl

theorem hasSurrogate_literalItems : (items : List Json) → (literalItems items).hasSurrogate = false
  | [] => rfl
  | [item] => hasSurrogate_literal item
  | item :: next :: items => by
      rw [literalItems, Text.hasSurrogate_append, Text.hasSurrogate_append,
        hasSurrogate_literal item, hasSurrogate_literalItems (next :: items)]
      decide

theorem hasSurrogate_literalFields :
    (fields : List (Text × Json)) → (literalFields fields).hasSurrogate = false
  | [] => rfl
  | [(name, value)] => by
      rw [literalFields, Text.hasSurrogate_append, Text.hasSurrogate_append,
        name.hasSurrogate_quoted, hasSurrogate_literal value]
      decide
  | (name, value) :: next :: fields => by
      rw [literalFields, Text.hasSurrogate_append, Text.hasSurrogate_append,
        Text.hasSurrogate_append, Text.hasSurrogate_append, name.hasSurrogate_quoted,
        hasSurrogate_literal value, hasSurrogate_literalFields (next :: fields)]
      decide

end

/-- A value is shown without surrogates unless it is a text with surrogates itself. -/
theorem hasSurrogate_display {value : Json}
    (plain : ∀ content, value = .text content → content.hasSurrogate = false) :
    value.display.hasSurrogate = false := by
  cases value with
  | text content => exact plain content rfl
  | null | bool _ | int _ | float _ | list _ | object _ => exact hasSurrogate_literal _

end Json

end Coursework
