import Coursework.Text.Encoding
import Mathlib.Data.List.Basic
import Mathlib.Data.Nat.Digits.Defs

/-! # Numerals

* **`Text.isDigit_of_mem_ofNat`**: the numeral of a number has ASCII digits only, so it has no
  surrogate.
* **`Text.natOfDigits_ofNat`**: it spells the number, and **`Text.head?_ofNat`** says that it does
  so without a leading zero.
* **`Text.length_ofNat_natOfDigits`**: the numeral of a number that digits spell is no longer than
  they are. -/

namespace Coursework.Text

/-- The numeral of a number has digits only. -/
theorem isDigit_of_mem_ofNat {number sign : Nat} (member : sign ∈ ofNat number) :
    Sign.isDigit sign = true := by
  obtain ⟨digit, hdigit, rfl⟩ := List.mem_map.mp member
  have h := Nat.isDigit_of_mem_toDigits (by decide) (by decide) hdigit
  simp only [Char.isDigit, Bool.and_eq_true, decide_eq_true_eq] at h
  simp only [Sign.isDigit, Bool.and_eq_true, decide_eq_true_eq]
  exact ⟨UInt32.le_iff_toNat_le.mp h.1, UInt32.le_iff_toNat_le.mp h.2⟩

/-- The numeral of a number has no surrogate. -/
theorem hasSurrogate_ofNat (number : Nat) : hasSurrogate (ofNat number) = false := by
  refine List.any_eq_false.mpr fun sign member => ?_
  have h := isDigit_of_mem_ofNat member
  simp only [Sign.isDigit, Bool.and_eq_true, decide_eq_true_eq] at h
  simp only [Sign.isSurrogate, Bool.and_eq_true, decide_eq_true_eq]
  omega

/-- The numeral of a number spells it. -/
theorem natOfDigits_ofNat (number : Nat) : natOfDigits (ofNat number) = number := by
  have step : (fun (value : Nat) (digit : Char) => value * 10 + (digit.toNat - Sign.zero)) =
      fun value digit => 10 * value + (digit.toNat - '0'.toNat) := by
    funext value digit
    rw [Nat.mul_comm]
    rfl
  rw [natOfDigits, ofNat, List.foldl_map, step, ← Nat.ofDigitChars_eq_foldl]
  exact Nat.ofDigitChars_ten_toDigits

theorem ofNat_ne_nil (number : Nat) : ofNat number ≠ [] := by
  intro none
  exact Nat.toDigits_ne_nil (List.map_eq_nil_iff.mp none)

/-- The numeral of a number that is not zero does not begin with a zero. -/
theorem head?_ofNat {number : Nat} (positive : 0 < number) :
    (ofNat number).head? ≠ some Sign.zero := by
  induction number using Nat.strongRecOn with
  | ind number ih =>
      rw [ofNat, Nat.toDigits_eq_if (by decide)]
      by_cases single : number < 10
      · rw [if_pos single]
        intro zero
        have value : number.digitChar.toNat = 48 := by simpa using zero
        rw [Nat.toNat_digitChar_of_lt_ten single] at value
        omega
      · -- all but the last digit are the numeral of a tenth
        have shorter := ih (number / 10) (by omega) (by omega)
        have some : (Nat.toDigits 10 (number / 10)).map Char.toNat ≠ [] := ofNat_ne_nil _
        rw [if_neg single, List.map_append, List.head?_append_of_ne_nil _ some]
        exact shorter

/-- Digits spell a number below the power of ten that their count gives. -/
theorem natOfDigits_lt {digits : Text} (isDigits : ∀ sign ∈ digits, Sign.isDigit sign = true) :
    natOfDigits digits < 10 ^ digits.length := by
  -- the digits behind a number that has been spelled leave room for each of their values
  have behind : ∀ (others : Text) (number : Nat), (∀ sign ∈ others, Sign.isDigit sign = true) →
      others.foldl (fun number digit => number * 10 + (digit - Sign.zero)) number <
        (number + 1) * 10 ^ others.length := by
    intro others
    induction others with
    | nil =>
        intro number _
        simp
    | cons sign others ih =>
        intro number isDigits
        obtain ⟨first, rest⟩ := List.forall_mem_cons.mp isDigits
        have bounded : sign - Sign.zero < 10 := by
          simp only [Sign.isDigit, Bool.and_eq_true, decide_eq_true_eq] at first
          simp only [Sign.zero]
          omega
        calc (sign :: others).foldl (fun number digit => number * 10 + (digit - Sign.zero)) number
            < (number * 10 + (sign - Sign.zero) + 1) * 10 ^ others.length := ih _ rest
          _ ≤ (number + 1) * 10 * 10 ^ others.length := Nat.mul_le_mul_right _ (by omega)
          _ = (number + 1) * 10 ^ (sign :: others).length := by
              rw [List.length_cons, Nat.pow_succ', Nat.mul_assoc]
  simpa [natOfDigits] using behind digits 0 isDigits

/-- The numeral of a number that digits spell is no longer than they are. -/
theorem length_ofNat_natOfDigits {digits : Text} (some : digits ≠ [])
    (isDigits : ∀ sign ∈ digits, Sign.isDigit sign = true) :
    (ofNat (natOfDigits digits)).length ≤ digits.length := by
  rw [ofNat, List.length_map]
  exact Nat.toDigits_length 10 _ _ (List.length_pos_iff.mpr some) (natOfDigits_lt isDigits)

end Coursework.Text
