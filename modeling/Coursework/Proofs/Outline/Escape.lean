import Coursework.Assignment.Outline
import Coursework.Proofs.Text.Trimming
import Mathlib.Data.List.TakeDrop

/-! # Escaped lines

An escaped line is a trimmed line, with a backslash before the point or parenthesis of a leading
number or before a sign that opens a block, if it begins with either.

* **`Outline.orderedMark?_eq_some_iff`** says which lines begin with the mark of an ordered list.
* **`Outline.Escaped`** lists the three forms, **`Outline.escaped_escapeLine`** says that there are
  no others.
* **`Outline.trimmed_escapeLine`**: an escaped line is trimmed itself. -/

namespace Coursework.Outline

variable {line : Text}

/-! ## (1) Numbers -/

/-- A text begins with the mark of an ordered list: digits, a point or parenthesis, and nothing or
white space. -/
structure Ordered (line digits : Text) (mark : Nat) (rest : Text) : Prop where
  /-- The parts make up the line. -/
  parts : line = digits ++ mark :: rest
  /-- There are digits. -/
  begins : digits ≠ []
  /-- They are decimal digits. -/
  decimal : ∀ digit ∈ digits, Sign.isDecimal digit = true
  /-- The mark is a point or a parenthesis. -/
  closes : mark = Sign.fullStop ∨ mark = Sign.rightParenthesis
  /-- It is set off from what follows. -/
  apart : ∀ sign, rest.head? = some sign → Sign.isBlank sign = true

theorem isDecimal_mark {mark : Nat} (closes : mark = Sign.fullStop ∨ mark = Sign.rightParenthesis) :
    Sign.isDecimal mark = false := by
  rcases closes with rfl | rfl <;> decide

theorem apart_iff {rest : Text} : (rest.isEmpty || (rest.take 1).any Sign.isBlank) = true ↔
    ∀ sign, rest.head? = some sign → Sign.isBlank sign = true := by
  cases rest <;> simp

/-- The mark of an ordered list is read exactly where it stands. -/
theorem orderedMark?_eq_some_iff {digits behind : Text} :
    orderedMark? line = some (digits, behind) ↔
      ∃ mark rest, behind = mark :: rest ∧ Ordered line digits mark rest := by
  rw [orderedMark?, List.span_eq_takeWhile_dropWhile Sign.isDecimal]
  have hline := List.takeWhile_append_dropWhile (p := Sign.isDecimal) (l := line)
  have hdecimal : ∀ digit ∈ line.takeWhile Sign.isDecimal, Sign.isDecimal digit = true :=
    fun digit h => List.mem_takeWhile_imp h
  constructor
  · intro h
    -- the digits that are read are all there are before the mark
    generalize line.takeWhile Sign.isDecimal = found at *
    generalize line.dropWhile Sign.isDecimal = after at *
    split at h
    · cases h
    · rename_i found mark rest hsome hspan
      rw [Prod.mk.injEq] at hspan
      obtain ⟨rfl, rfl⟩ := hspan
      split at h
      · rename_i hmark
        rw [Bool.and_eq_true, Bool.or_eq_true, decide_eq_true_eq, decide_eq_true_eq, apart_iff]
          at hmark
        rw [Option.some.injEq, Prod.mk.injEq] at h
        obtain ⟨rfl, rfl⟩ := h
        exact ⟨mark, rest, rfl, hline.symm, fun h => hsome h, hdecimal, hmark.1, hmark.2⟩
      · cases h
    · cases h
  · rintro ⟨mark, rest, rfl, rfl, begins, decimal, closes, apart⟩
    rw [List.takeWhile_append_of_pos decimal, List.dropWhile_append_of_pos decimal,
      List.takeWhile_cons, List.dropWhile_cons, isDecimal_mark closes]
    obtain ⟨digit, digits, rfl⟩ := List.exists_cons_of_ne_nil begins
    have hapart := apart_iff.mpr apart
    simp only [Bool.false_eq_true, if_false, List.append_nil, hapart, Bool.and_true,
      Bool.or_eq_true, decide_eq_true_eq, closes, if_true]

/-! ## (2) Lines -/

/-- The forms of an escaped line. -/
inductive Escaped (line : Text) : Text → Prop
  /-- A number before the mark of a list. -/
  | ordered {digits : Text} {mark : Nat} {rest : Text} (h : Ordered line digits mark rest) :
    Escaped line (digits ++ Sign.backslash :: mark :: rest)
  /-- A sign that opens a block. -/
  | opening {sign : Nat} {rest : Text} (h : line = sign :: rest) (opens : opensBlock sign = true) :
    Escaped line (Sign.backslash :: line)
  /-- Neither of them. -/
  | plain (unordered : orderedMark? line = none)
    (opensNone : ∀ sign, line.head? = some sign → opensBlock sign = false) : Escaped line line

/-- A line is escaped in one of these forms. -/
theorem escaped_escapeLine (line : Text) : Escaped line.strip (escapeLine line) := by
  rw [escapeLine]
  generalize line.strip = trimmed
  cases h : orderedMark? trimmed with
  | some found =>
      obtain ⟨digits, behind⟩ := found
      obtain ⟨mark, rest, rfl, ordered⟩ := orderedMark?_eq_some_iff.mp h
      exact .ordered ordered
  | none =>
      cases trimmed with
      | nil => exact .plain h fun sign h => by cases h
      | cons sign rest =>
          simp only [List.take_succ_cons, List.take_zero, List.any_cons, List.any_nil,
            Bool.or_false]
          cases opens : opensBlock sign with
          | true => exact .opening rfl opens
          | false =>
              refine .plain h fun other hother => ?_
              rw [← Option.some.inj hother, opens]

/-- The first sign of an escaped line is a backslash or that of the line. -/
theorem Escaped.head? {escaped : Text} (h : Escaped line escaped) {sign : Nat}
    (first : escaped.head? = some sign) : sign = Sign.backslash ∨ line.head? = some sign := by
  cases h with
  | ordered ordered =>
      obtain ⟨digit, digits, rfl⟩ := List.exists_cons_of_ne_nil ordered.begins
      rw [ordered.parts]
      exact .inr first
  | opening h opens => exact .inl (Option.some.inj first).symm
  | plain unordered opensNone => exact .inr first

/-- Its last sign is that of the line. -/
theorem Escaped.getLast? {escaped : Text} (h : Escaped line escaped) :
    escaped.getLast? = line.getLast? := by
  cases h with
  | ordered ordered =>
      rw [ordered.parts, List.getLast?_append, List.getLast?_append, List.getLast?_cons_cons]
  | opening h opens =>
      rw [h, List.getLast?_cons_cons]
  | plain unordered opensNone => rfl

/-- Its signs are those of the line and a backslash. -/
theorem Escaped.mem {escaped : Text} (h : Escaped line escaped) {sign : Nat}
    (member : sign ∈ escaped) : sign = Sign.backslash ∨ sign ∈ line := by
  cases h with
  | ordered ordered =>
      rw [ordered.parts]
      simp only [List.mem_append, List.mem_cons] at member ⊢
      tauto
  | opening h opens => exact List.mem_cons.mp member
  | plain unordered opensNone => exact .inr member

/-- At most one sign is added. -/
theorem Escaped.length_le {escaped : Text} (h : Escaped line escaped) :
    escaped.length ≤ line.length + 1 := by
  cases h with
  | ordered ordered =>
      rw [ordered.parts]
      simp only [List.length_append, List.length_cons]
      omega
  | opening h opens => exact Nat.le_refl _
  | plain unordered opensNone => exact Nat.le_succ _

/-- An escaped line is empty exactly if there is nothing to see on the line. -/
theorem escapeLine_eq_nil_iff : escapeLine line = [] ↔ line.isBlank = true := by
  have hlast := (escaped_escapeLine line).getLast?
  rw [← Text.strip_eq_nil_iff, ← List.getLast?_eq_none_iff, hlast, List.getLast?_eq_none_iff]

/-- An escaped line is trimmed. -/
theorem trimmed_escapeLine (line : Text) : (escapeLine line).Trimmed where
  first sign h := by
    rcases (escaped_escapeLine line).head? h with rfl | h
    · decide
    · exact line.trimmed_strip.first sign h
  last sign h := line.trimmed_strip.last sign ((escaped_escapeLine line).getLast?.symm.trans h)

/-- The signs of an escaped line are those of the line and a backslash. -/
theorem mem_escapeLine {sign : Nat} (h : sign ∈ escapeLine line) :
    sign = Sign.backslash ∨ sign ∈ line :=
  ((escaped_escapeLine line).mem h).imp_right Text.mem_of_mem_strip

end Coursework.Outline
