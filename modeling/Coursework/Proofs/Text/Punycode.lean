import Coursework.Text.Punycode

/-! # Punycode has no full stops and stands for no empty label

* **`Punycode.fullStop_not_mem_encode`**: the written form of a label has no full stop that the
  label does not have.
* **`Punycode.ne_nil_of_decode?`**: what is read from numbers is not empty. -/

namespace Coursework.Punycode

/-! ## (1) Writing -/

theorem digit_ne_fullStop (value : Nat) : digit value ≠ Sign.fullStop := by
  rw [digit, Sign.fullStop]
  split <;> omega

theorem fullStop_not_mem_digits (bias fuel place number : Nat) :
    Sign.fullStop ∉ digits bias fuel place number := by
  induction fuel generalizing place number with
  | zero => exact List.not_mem_nil
  | succ fuel ih =>
      rw [digits]
      split
      · rw [List.mem_singleton]
        exact (digit_ne_fullStop _).symm
      · rw [List.mem_cons, not_or]
        exact ⟨(digit_ne_fullStop _).symm, ih _ _⟩

theorem Writer.fullStop_not_mem_pass {writer : Writer} (clean : Sign.fullStop ∉ writer.written)
    (current sign : Nat) : Sign.fullStop ∉ (writer.pass current sign).written := by
  rw [pass]
  split
  · exact clean
  · split
    · rw [List.mem_append, not_or]
      exact ⟨clean, fullStop_not_mem_digits _ _ _ _⟩
    · exact clean

theorem Writer.fullStop_not_mem_foldl {writer : Writer} (clean : Sign.fullStop ∉ writer.written)
    (current : Nat) (label : Text) :
    Sign.fullStop ∉ (label.foldl (Writer.pass current) writer).written := by
  induction label generalizing writer with
  | nil => exact clean
  | cons sign label ih => exact ih (fullStop_not_mem_pass clean current sign)

theorem Writer.fullStop_not_mem_place {writer : Writer} (clean : Sign.fullStop ∉ writer.written)
    (label : Text) (next : Nat) (signs : Text) :
    Sign.fullStop ∉ (Writer.place label next signs writer).written := by
  induction signs generalizing next writer with
  | nil => exact clean
  | cons sign signs ih =>
      rw [place]
      refine ih ?_ (sign + 1)
      refine fullStop_not_mem_foldl ?_ sign label
      exact clean

/-- The written form of a label has no full stop. -/
theorem fullStop_not_mem_encode {label : Text} (absent : Sign.fullStop ∉ label) :
    Sign.fullStop ∉ encode label := by
  refine Writer.fullStop_not_mem_place ?_ label _ _
  dsimp only
  split
  · exact List.not_mem_nil
  · rw [List.mem_append, not_or]
    exact ⟨fun member => absent (List.mem_filter.mp member).1, by decide⟩

/-! ## (2) Reading -/

/-- A sign that is placed stands in the label. -/
theorem Reader.finish_eq_some {reader placed : Reader} {number : Nat}
    (finish : reader.finish number = some placed) : placed.label ≠ [] ∧ placed.place = 36 := by
  rw [Reader.finish] at finish
  split at finish
  · cases finish
  · obtain rfl := Option.some.inj finish
    exact ⟨List.append_ne_nil_of_right_ne_nil _ (List.cons_ne_nil _ _), rfl⟩

/-- What is read is not empty if a sign was placed, a number is in progress or there is a digit. -/
theorem Reader.ne_nil_of_read {reader : Reader} {text label : Text} (later : 36 ≤ reader.place)
    (some : reader.label ≠ [] ∨ 36 < reader.place ∨ text ≠ [])
    (read : reader.read text = .some label) : label ≠ [] := by
  induction text generalizing reader with
  | nil =>
      rw [Reader.read] at read
      split at read
      · rename_i finished
        obtain rfl := Option.some.inj read
        rcases some with placed | unfinished | digits
        · exact placed
        · omega
        · exact absurd rfl digits
      · cases read
  | cons sign text ih =>
      rw [Reader.read] at read
      split at read
      · cases read
      · dsimp only at read
        split at read
        · split at read
          · rename_i placed finish
            obtain ⟨filled, again⟩ := finish_eq_some finish
            exact ih (by omega) (.inl filled) read
          · cases read
        · exact ih (by dsimp only; omega) (.inr (.inl (by dsimp only; omega))) read

/-- What stands for a label ends with the digits of a number, so that the label is not empty. -/
theorem ne_nil_of_decode? {written label : Text} (filled : written ≠ [])
    (ends : written.getLast? ≠ some Sign.hyphen) (read : decode? written = some label) :
    label ≠ [] := by
  -- the digits stand behind the last hyphen
  refine Reader.ne_nil_of_read (Nat.le_refl _) (.inr (.inr ?_)) read
  obtain ⟨sign, before, same⟩ := List.exists_cons_of_ne_nil (List.reverse_ne_nil_iff.mpr filled)
  have other : sign ≠ Sign.hyphen := by
    rintro rfl
    rw [← List.head?_reverse, same] at ends
    exact ends rfl
  rw [same, List.takeWhile_cons, if_pos (by simpa using other)]
  exact List.reverse_ne_nil_iff.mpr (List.cons_ne_nil _ _)

end Coursework.Punycode
