import Coursework.Assignment.Reply
import Coursework.Proofs.Json.RoundTrip
import Mathlib.Algebra.Order.Field.Power
import Mathlib.Data.Nat.Digits.Defs
import Mathlib.Data.Rat.Cast.Order
import Mathlib.Tactic.Positivity

/-! # The number with which a value begins

The number of tasks is a whole number, a number without fraction, or a text that begins with one:
the digits, of any script, that stand first but for white space and one sign.

* **`Binary64.value?`** is the value of a number of double precision, and
  **`Binary64.toInt?_eq_some_iff`** says when it is whole.
* **`Reply.LeadingRun`** holds of a text and the sign and the digits with which it begins,
  **`Reply.digitsValue`** is what the digits spell.
* **`Reply.leadingIntegerOf_of_run`** and **`Reply.leadingIntegerOf_eq_none_iff`** are the two cases
  of a text.
* **`Reply.leadingInteger_exact`** is the main statement. -/

namespace Coursework

/-! ## (1) Numbers of double precision -/

namespace Binary64

/-- The value of a finite number. -/
def value? : Binary64 → Option ℚ
  | finite negative significand exponent =>
    some ((if negative then -1 else 1) * (significand * 2 ^ exponent))
  | infinite _ => none
  | nan => none

/-- What is read of a number apart from its sign is its magnitude, if that is whole. -/
theorem magnitude_eq_some_iff (significand magnitude : Nat) (exponent : Int) :
    (if 0 ≤ exponent then some (significand * Nat.pow 2 exponent.toNat)
      else if significand % Nat.pow 2 (-exponent).toNat = 0 then
        some (significand / Nat.pow 2 (-exponent).toNat)
      else none) = some magnitude ↔ (significand : ℚ) * 2 ^ exponent = magnitude := by
  by_cases nonneg : 0 ≤ exponent
  · obtain ⟨power, rfl⟩ := Int.eq_ofNat_of_zero_le nonneg
    rw [if_pos nonneg, Option.some.injEq, zpow_natCast]
    exact_mod_cast Iff.rfl
  · obtain ⟨power, rfl⟩ := Int.exists_eq_neg_ofNat (Int.le_of_lt (not_le.mp nonneg))
    have unit : Nat.pow 2 (- -(power : Int)).toNat = 2 ^ power := by
      rw [neg_neg, Int.toNat_natCast]
      rfl
    have positive : 0 < 2 ^ power := Nat.two_pow_pos power
    have scaled : (significand : ℚ) * 2 ^ (-(power : Int)) = magnitude ↔
        significand = magnitude * 2 ^ power := by
      rw [zpow_neg, zpow_natCast, ← div_eq_mul_inv, div_eq_iff (pow_ne_zero power two_ne_zero)]
      exact_mod_cast Iff.rfl
    rw [if_neg nonneg, unit, scaled]
    constructor
    · intro found
      split_ifs at found with whole
      rw [← Option.some.inj found, Nat.div_mul_cancel (Nat.dvd_of_mod_eq_zero whole)]
    · rintro rfl
      rw [if_pos (Nat.mul_mod_left _ _), Nat.mul_div_cancel _ positive]

/-- A number is read as a whole number exactly if that is its value. -/
theorem toInt?_eq_some_iff {number : Binary64} {whole : Int} :
    number.toInt? = some whole ↔ number.value? = some (whole : ℚ) := by
  cases number with
  | infinite negative => simp [toInt?, value?]
  | nan => simp [toInt?, value?]
  | finite negative significand exponent =>
      have nonneg : (0 : ℚ) ≤ significand * 2 ^ exponent := by positivity
      unfold toInt? value?
      simp only [Option.map_eq_some_iff, Option.bind_eq_bind, Option.bind_eq_some_iff,
        Option.pure_def, Option.some.injEq, exists_exists_and_eq_and, magnitude_eq_some_iff]
      constructor
      · rintro ⟨magnitude, same, rfl⟩
        rw [same]
        cases negative <;> simp
      · intro same
        refine ⟨whole.natAbs, ?_, ?_⟩
        · rw [Nat.cast_natAbs, Int.cast_abs, ← same]
          cases negative <;> simp [abs_of_nonneg nonneg]
        · cases negative with
          | false =>
              have : (0 : ℚ) ≤ whole := by simpa [← same] using nonneg
              have : 0 ≤ whole := by exact_mod_cast this
              simp [abs_of_nonneg this]
          | true =>
              have : (whole : ℚ) ≤ 0 := by simpa [← same] using nonneg
              have : whole ≤ 0 := by exact_mod_cast this
              simp [abs_of_nonpos this]

end Binary64

namespace Reply

/-! ## (2) Runs of digits -/

/-- A text begins with digits, of any script and as many as there are, behind white space and at
most one sign. -/
structure LeadingRun (text sign digits : Text) : Prop where
  /-- White space stands before the sign, and no further digit behind the digits. -/
  parts : ∃ blanks rest : Text, text = blanks ++ (sign ++ (digits ++ rest)) ∧
    blanks.isBlank = true ∧ ∀ next, rest.head? = some next → Sign.isDecimal next = false
  /-- There may be a sign. -/
  signed : sign = [] ∨ sign = [Sign.plus] ∨ sign = [Sign.hyphen]
  /-- There are digits. -/
  shown : digits ≠ []
  /-- They are decimal digits. -/
  decimal : ∀ digit ∈ digits, Sign.isDecimal digit = true

/-- The value of a decimal digit. -/
def digitValue (digit : Nat) : Nat := (Sign.digitValue? digit).getD 0

/-- The number that digits spell, the last of them being the units. -/
def digitsValue (digits : Text) : Nat := Nat.ofDigits 10 (digits.reverse.map digitValue)

/-- The number that a sign and digits spell. -/
def signedValue (sign digits : Text) : Int :=
  if sign = [Sign.hyphen] then -(digitsValue digits : Int) else digitsValue digits

theorem numberOf_map_digitValue (digits : Text) :
    numberOf (digits.map digitValue) = digitsValue digits := by
  rw [numberOf, digitsValue, Nat.ofDigits_eq_foldr, List.foldr_map, List.foldr_reverse,
    List.foldl_map]
  congr 1
  funext number digit
  rw [Nat.mul_comm, Nat.add_comm]
  rfl

/-- No digit is white space. -/
theorem isBlank_of_isDecimal {digit : Nat} (decimal : Sign.isDecimal digit = true) :
    Sign.isBlank digit = false := by
  have every : ∀ first ∈ Sign.zeros, ∀ value < 10, Sign.isBlank (first + value) = false := by
    decide
  obtain ⟨value, found⟩ := Option.isSome_iff_exists.mp decimal
  obtain ⟨first, search, -⟩ := Option.map_eq_some_iff.mp found
  have inside := List.find?_some search
  rw [Bool.and_eq_true, decide_eq_true_eq, decide_eq_true_eq] at inside
  have shift : digit = first + (digit - first) := by omega
  rw [shift]
  exact every first (List.mem_of_find?_eq_some search) _ (by omega)

section Digits

variable {text digits rest : Text}

/-- The digits at the start of a text are read up to another sign. -/
theorem leadingDigits_append (decimal : ∀ digit ∈ digits, Sign.isDecimal digit = true)
    (ends : ∀ next, rest.head? = some next → Sign.isDecimal next = false) :
    leadingDigits (digits ++ rest) = digits.map digitValue := by
  induction digits with
  | nil =>
      cases rest with
      | nil => rfl
      | cons next rest =>
          have none : Sign.digitValue? next = none := by
            have other := ends next rfl
            rwa [Sign.isDecimal, Option.isSome_eq_false_iff, Option.isNone_iff_eq_none] at other
          rw [List.nil_append, leadingDigits, none]
          rfl
  | cons digit digits ih =>
      obtain ⟨own, others⟩ := List.forall_mem_cons.mp decimal
      obtain ⟨value, found⟩ := Option.isSome_iff_exists.mp own
      have same : digitValue digit = value := by rw [digitValue, found]; rfl
      rw [List.cons_append, leadingDigits, found, List.map_cons, same]
      exact congrArg _ (ih others)

/-- A text is read by its parts: white space, a sign and digits, each as far as it goes. -/
theorem leadingIntegerOf_eq {sign : Text}
    (begins : text.stripStart = sign ++ (digits ++ rest))
    (signed : sign = [] ∨ sign = [Sign.plus] ∨ sign = [Sign.hyphen])
    (plain : sign = [] → ∀ first, (digits ++ rest).head? = some first →
      first ≠ Sign.plus ∧ first ≠ Sign.hyphen)
    (decimal : ∀ digit ∈ digits, Sign.isDecimal digit = true)
    (ends : ∀ next, rest.head? = some next → Sign.isDecimal next = false) :
    leadingIntegerOf text =
      if digits = [] then .ok none
      else if Json.numeralLimit < digits.length then .error (.longNumeral digits.length)
      else .ok (some (signedValue sign digits)) := by
  have read := leadingDigits_append decimal ends
  unfold leadingIntegerOf
  split
  rename_i negative unsigned found
  rw [begins] at found
  -- what is left of the text without the sign are the digits and what follows them
  obtain ⟨rfl, rfl⟩ : negative = decide (sign = [Sign.hyphen]) ∧ unsigned = digits ++ rest := by
    rcases signed with rfl | rfl | rfl
    · rw [List.nil_append] at found
      split at found
      · rename_i behind same
        rw [same] at plain
        exact absurd rfl (plain rfl _ rfl).2
      · rename_i behind same
        rw [same] at plain
        exact absurd rfl (plain rfl _ rfl).1
      · cases found
        exact ⟨rfl, rfl⟩
    · cases found
      exact ⟨rfl, rfl⟩
    · cases found
      exact ⟨rfl, rfl⟩
  simp only [read, List.isEmpty_iff, List.map_eq_nil_iff, List.length_map, numberOf_map_digitValue,
    decide_eq_true_eq, signedValue]

/-- Digits that begin a text are read, unless there are too many of them. -/
theorem leadingIntegerOf_of_run {sign : Text} (run : LeadingRun text sign digits) :
    leadingIntegerOf text =
      if digits.length ≤ Json.numeralLimit then .ok (some (signedValue sign digits))
      else .error (.longNumeral digits.length) := by
  obtain ⟨blanks, rest, whole, blank, ends⟩ := run.parts
  obtain ⟨digit, others, rfl⟩ := List.exists_cons_of_ne_nil run.shown
  have isDigit := run.decimal digit List.mem_cons_self
  -- neither a sign nor a digit is white space, and no sign is a digit
  have solid : ∀ first, (sign ++ (digit :: others ++ rest)).head? = some first →
      Sign.isBlank first = false := by
    intro first same
    rcases run.signed with rfl | rfl | rfl <;> obtain rfl := Option.some.inj same
    · exact isBlank_of_isDecimal isDigit
    · rfl
    · rfl
  have plain : ∀ first, (digit :: others ++ rest).head? = some first →
      first ≠ Sign.plus ∧ first ≠ Sign.hyphen := by
    intro first same
    obtain rfl := Option.some.inj same
    constructor <;> rintro rfl <;> exact absurd isDigit (by decide)
  have begins : text.stripStart = sign ++ (digit :: others ++ rest) := by
    rw [Text.stripStart, whole, List.dropWhile_append_of_pos (List.all_eq_true.mp blank)]
    cases same : sign ++ (digit :: others ++ rest) with
    | nil => rfl
    | cons first more =>
        apply List.dropWhile_cons_of_neg
        rw [solid first (by rw [same]; rfl)]
        exact Bool.false_ne_true
  rw [leadingIntegerOf_eq begins run.signed (fun _ => plain) run.decimal ends,
    if_neg (List.cons_ne_nil _ _)]
  by_cases long : Json.numeralLimit < (digit :: others).length
  · rw [if_pos long, if_neg (Nat.not_le.mpr long)]
  · rw [if_neg long, if_pos (Nat.not_lt.mp long)]

end Digits

/-- A text is a sign, if it begins with one, and what follows it. -/
theorem exists_sign (text : Text) : ∃ sign unsigned : Text, text = sign ++ unsigned ∧
    (sign = [] ∨ sign = [Sign.plus] ∨ sign = [Sign.hyphen]) ∧
    (sign = [] → ∀ first, unsigned.head? = some first →
      first ≠ Sign.plus ∧ first ≠ Sign.hyphen) := by
  cases text with
  | nil => exact ⟨[], [], rfl, .inl rfl, fun _ _ same => nomatch same⟩
  | cons first rest =>
      by_cases positive : first = Sign.plus
      · exact ⟨[Sign.plus], rest, by rw [positive]; rfl, .inr (.inl rfl), fun same => nomatch same⟩
      · by_cases negative : first = Sign.hyphen
        · exact ⟨[Sign.hyphen], rest, by rw [negative]; rfl, .inr (.inr rfl),
            fun same => nomatch same⟩
        · refine ⟨[], first :: rest, rfl, .inl rfl, fun _ other same => ?_⟩
          obtain rfl := Option.some.inj same
          exact ⟨positive, negative⟩

/-- A text begins with no number exactly if it begins with no digits. -/
theorem leadingIntegerOf_eq_none_iff {text : Text} :
    leadingIntegerOf text = .ok none ↔ ∀ sign digits : Text, ¬ LeadingRun text sign digits := by
  constructor
  · intro found sign digits run
    rw [leadingIntegerOf_of_run run] at found
    split_ifs at found
    cases found
  · intro bare
    obtain ⟨sign, unsigned, begins, signed, plain⟩ := exists_sign text.stripStart
    have decimal : ∀ digit ∈ unsigned.takeWhile Sign.isDecimal, Sign.isDecimal digit = true :=
      fun _ member => List.mem_takeWhile_imp member
    have ends : ∀ next, (unsigned.dropWhile Sign.isDecimal).head? = some next →
        Sign.isDecimal next = false := by
      intro next same
      have stops := List.head?_dropWhile_not Sign.isDecimal unsigned
      rwa [same] at stops
    rw [← List.takeWhile_append_dropWhile (p := Sign.isDecimal) (l := unsigned)] at begins plain
    have shown : unsigned.takeWhile Sign.isDecimal = [] := by
      by_contra shown
      apply bare sign (unsigned.takeWhile Sign.isDecimal)
      refine ⟨⟨text.takeWhile Sign.isBlank, _, ?_, List.all_takeWhile, ends⟩, signed, shown,
        decimal⟩
      rw [← begins]
      exact List.takeWhile_append_dropWhile.symm
    rw [leadingIntegerOf_eq begins signed plain decimal ends, if_pos shown]

/-! ## (3) Numerals -/

/-- The digits of a numeral have their usual values. -/
theorem digitValue?_of_mem_ofNat {number digit : Nat} (member : digit ∈ Text.ofNat number) :
    Sign.digitValue? digit = some (digit - Sign.zero) := by
  have bounds := Text.isDigit_of_mem_ofNat member
  simp only [Sign.isDigit, Bool.and_eq_true, decide_eq_true_eq] at bounds
  obtain ⟨value, rfl⟩ : ∃ value, digit = Sign.zero + value := Nat.exists_eq_add_of_le bounds.1
  have small : value < 10 := by
    have : Sign.zero = 48 := rfl
    omega
  rw [Sign.digitValue?_zero_add value small, Nat.add_sub_cancel_left]

/-- The numeral of a number consists of decimal digits. -/
theorem isDecimal_of_mem_ofNat {number digit : Nat} (member : digit ∈ Text.ofNat number) :
    Sign.isDecimal digit = true := by
  rw [Sign.isDecimal, digitValue?_of_mem_ofNat member]
  rfl

/-- The digits of a numeral spell its number. -/
theorem digitsValue_ofNat (number : Nat) : digitsValue (Text.ofNat number) = number := by
  have own : ∀ digit ∈ Text.ofNat number, digitValue digit = digit - Sign.zero := by
    intro digit member
    rw [digitValue, digitValue?_of_mem_ofNat member]
    rfl
  rw [← numberOf_map_digitValue, List.map_congr_left own, numberOf, List.foldl_map]
  exact Text.natOfDigits_ofNat number

/-- A text that begins with the numeral of a number begins with its sign and its digits. -/
theorem exists_run_ofInt (number : Int) {before after : Text} (blank : before.isBlank = true)
    (ends : ∀ next, after.head? = some next → Sign.isDecimal next = false) :
    ∃ sign : Text, LeadingRun (before ++ (Text.ofInt number ++ after)) sign
        (Text.ofNat number.natAbs) ∧
      signedValue sign (Text.ofNat number.natAbs) = number := by
  have shown := Text.ofNat_ne_nil number.natAbs
  have decimal : ∀ digit ∈ Text.ofNat number.natAbs, Sign.isDecimal digit = true :=
    fun _ => isDecimal_of_mem_ofNat
  cases number with
  | ofNat number =>
      refine ⟨[], ⟨⟨before, after, rfl, blank, ends⟩, .inl rfl, shown, decimal⟩, ?_⟩
      rw [signedValue, if_neg (by decide), digitsValue_ofNat]
      rfl
  | negSucc number =>
      refine ⟨[Sign.hyphen], ⟨⟨before, after, rfl, blank, ends⟩, .inr (.inr rfl), shown, decimal⟩,
        ?_⟩
      rw [signedValue, if_pos rfl, digitsValue_ofNat]
      rfl

/-! ## (4) Exactness -/

/-- **The number with which a value begins.** A text that begins with digits is the number that
they spell with the sign before them, and too many digits are refused; any other text is no
number. A numeral is therefore read back, whatever white space stands before it and whatever but a
digit behind it; and a number of double precision is read exactly if it is whole. -/
theorem leadingInteger_exact :
    (∀ text sign digits : Text, LeadingRun text sign digits →
      leadingInteger (.text text) =
        if digits.length ≤ Json.numeralLimit then .ok (some (signedValue sign digits))
        else .error (.longNumeral digits.length)) ∧
    (∀ text : Text, leadingInteger (.text text) = .ok none ↔
      ∀ sign digits : Text, ¬ LeadingRun text sign digits) ∧
    (∀ (number : Int) (before after : Text), Json.Short number → before.isBlank = true →
      (∀ next, after.head? = some next → Sign.isDecimal next = false) →
      leadingInteger (.text (before ++ (Text.ofInt number ++ after))) = .ok (some number) ∧
      leadingInteger (.int number) = .ok (some number)) ∧
    ∀ (number : Binary64) (whole : Int),
      leadingInteger (.float number) = .ok (some whole) ↔ number.value? = some (whole : ℚ) := by
  refine ⟨fun text sign digits run => ?_, fun text => ?_,
    fun number before after short blank ends => ⟨?_, rfl⟩, fun number whole => ?_⟩
  · exact leadingIntegerOf_of_run run
  · exact leadingIntegerOf_eq_none_iff
  · obtain ⟨sign, run, value⟩ := exists_run_ofInt number blank ends
    have few : (Text.ofNat number.natAbs).length ≤ Json.numeralLimit := short
    rw [leadingInteger, leadingIntegerOf_of_run run, if_pos few, value]
  · rw [leadingInteger, Except.ok.injEq]
    exact Binary64.toInt?_eq_some_iff

/-- Digits of three scripts behind two kinds of white space, a sign with nothing behind it, a
numeral with a fraction, and twenty-four eighths. -/
theorem leadingInteger_exact_mixed :
    leadingInteger (.text [0x3000, 9, 45, 0x660, 0x96A, 0xFF12, 32, 116]) = .ok (some (-42)) ∧
      leadingInteger (.text "+ 3") = .ok none ∧
      leadingInteger (.text ("\n " ++ (Text.ofInt (-12) ++ ".5"))) = .ok (some (-12)) ∧
      leadingInteger (.float (.finite true 24 (-3))) = .ok (some (-3)) := by
  obtain ⟨spelled, unspelled, numeral, float⟩ := leadingInteger_exact
  refine ⟨?_, ?_, ?_, ?_⟩
  · have run : LeadingRun [0x3000, 9, 45, 0x660, 0x96A, 0xFF12, 32, 116] [Sign.hyphen]
        [0x660, 0x96A, 0xFF12] :=
      ⟨⟨[0x3000, 9], [32, 116], rfl, rfl, by decide⟩, by decide, by decide, by decide⟩
    rw [spelled _ _ _ run]
    rfl
  · exact (unspelled _).mpr (leadingIntegerOf_eq_none_iff.mp rfl)
  · exact (numeral (-12) "\n " ".5" (by decide) (by decide) (by decide)).1
  · apply (float _ _).mpr
    norm_num [Binary64.value?]

end Reply

end Coursework
