import Coursework.Proofs.Outcome
import Coursework.Proofs.Text.Utf8

/-! # Bytes that are UTF-8

Bytes are read as a text exactly if they are its UTF-8 form: each code point stands in its shortest
form, is no surrogate and not beyond the last one, and no sequence is cut off.

* **`Text.exists_of_ofUtf8From`**: what is read first is a code point, whose bytes stand first.
* **`Text.ofUtf8_eq_ok_iff`** is the main statement. -/

namespace Coursework

/-- The code points below the limit that are no surrogates. -/
theorem Sign.isScalar_iff {sign : Nat} :
    isScalar sign = true ↔ sign < 0x110000 ∧ (sign < 0xD800 ∨ 0xDFFF < sign) := by
  simp only [isScalar, isSurrogate, Bool.and_eq_true, decide_eq_true_eq, Bool.not_eq_true',
    Bool.and_eq_false_iff, decide_eq_false_iff_not]
  omega

namespace Text

/-! ## (1) Sequences of bytes

What an opening byte asks for is such that the value of the whole sequence is no surrogate, lies
below the limit and needs as many bytes. -/

section Sequences

variable {byte low high second third fourth sign : Nat}

theorem utf8Bytes_single (opening : utf8Opening? byte = some (0, low, high)) :
    Sign.isScalar byte = true ∧ utf8Bytes byte = [byte] := by
  have ascii : byte < 0x80 := by
    rw [utf8Opening?] at opening
    split_ifs at opening <;> first | assumption | cases opening
  constructor
  · rw [Sign.isScalar_iff]
    omega
  · rw [utf8Bytes, if_pos ascii]

theorem utf8Bytes_two (opening : utf8Opening? byte = some (1, low, high))
    (inRange : low ≤ second ∧ second ≤ high)
    (value : sign = (byte - 0xC0) * 0x40 + (second - 0x80)) :
    Sign.isScalar sign = true ∧ utf8Bytes sign = [byte, second] := by
  rw [utf8Opening?] at opening
  simp only [Bool.and_eq_true, decide_eq_true_eq] at opening
  split_ifs at opening <;> cases opening
  constructor
  · rw [Sign.isScalar_iff]
    omega
  · have first : 0xC0 + sign / 0x40 = byte := by omega
    have last : 0x80 + sign % 0x40 = second := by omega
    rw [utf8Bytes, if_neg (by omega), if_pos (by omega), first, last]

theorem utf8Bytes_three (opening : utf8Opening? byte = some (2, low, high))
    (inRange : low ≤ second ∧ second ≤ high) (continues : 0x80 ≤ third ∧ third ≤ 0xBF)
    (value : sign = ((byte - 0xE0) * 0x40 + (second - 0x80)) * 0x40 + (third - 0x80)) :
    Sign.isScalar sign = true ∧ utf8Bytes sign = [byte, second, third] := by
  -- the range of the second byte leaves out the surrogates and what fits two bytes
  have bounds : 0x800 ≤ sign ∧ sign < 0x10000 ∧ (sign < 0xD800 ∨ 0xDFFF < sign) ∧
      0xE0 ≤ byte ∧ 0x80 ≤ second ∧ second ≤ 0xBF := by
    rw [utf8Opening?] at opening
    simp only [Bool.and_eq_true, decide_eq_true_eq] at opening
    split_ifs at opening <;> cases opening <;> omega
  constructor
  · rw [Sign.isScalar_iff]
    omega
  · have first : 0xE0 + sign / 0x1000 = byte := by omega
    have middle : 0x80 + sign / 0x40 % 0x40 = second := by omega
    have last : 0x80 + sign % 0x40 = third := by omega
    rw [utf8Bytes, if_neg (by omega), if_neg (by omega), if_pos (by omega), first, middle, last]

theorem utf8Bytes_four (opening : utf8Opening? byte = some (3, low, high))
    (inRange : low ≤ second ∧ second ≤ high) (continues : 0x80 ≤ third ∧ third ≤ 0xBF)
    (ends : 0x80 ≤ fourth ∧ fourth ≤ 0xBF)
    (value : sign = (((byte - 0xF0) * 0x40 + (second - 0x80)) * 0x40 + (third - 0x80)) * 0x40 +
      (fourth - 0x80)) :
    Sign.isScalar sign = true ∧ utf8Bytes sign = [byte, second, third, fourth] := by
  -- the range of the second byte leaves out what fits three bytes and what lies beyond the limit
  have bounds : 0x10000 ≤ sign ∧ sign < 0x110000 ∧
      0xF0 ≤ byte ∧ 0x80 ≤ second ∧ second ≤ 0xBF := by
    rw [utf8Opening?] at opening
    simp only [Bool.and_eq_true, decide_eq_true_eq] at opening
    split_ifs at opening <;> cases opening <;> omega
  constructor
  · rw [Sign.isScalar_iff]
    omega
  · have first : 0xF0 + sign / 0x40000 = byte := by omega
    have next : 0x80 + sign / 0x1000 % 0x40 = second := by omega
    have middle : 0x80 + sign / 0x40 % 0x40 = third := by omega
    have last : 0x80 + sign % 0x40 = fourth := by omega
    rw [utf8Bytes, if_neg (by omega), if_neg (by omega), if_neg (by omega), first, next, middle,
      last]

/-- At most three bytes continue a code point. -/
theorem wanted_of_utf8Opening? {wanted : Nat}
    (opening : utf8Opening? byte = some (wanted, low, high)) :
    wanted = 0 ∨ wanted = 1 ∨ wanted = 2 ∨ wanted = 3 := by
  rw [utf8Opening?] at opening
  split_ifs at opening <;> cases opening <;> simp

end Sequences

/-! ## (2) Reading -/

section Reading

variable {position : Nat} {bytes : List Nat} {text : Text}

/-- Within a code point the next byte lies in the range that is asked for. It completes the code
point if it is the last one wanted. -/
theorem exists_of_within {opening value read wanted low high : Nat}
    (found : ofUtf8From (.within opening value read wanted low high) position bytes = .ok text) :
    ∃ byte rest, bytes = byte :: rest ∧ (low ≤ byte ∧ byte ≤ high) ∧
      (wanted = 1 → ∃ later, ofUtf8From .between (position + 1) rest = .ok later ∧
        text = (value * 0x40 + (byte - 0x80)) :: later) ∧
      (wanted ≠ 1 → ofUtf8From (.within opening (value * 0x40 + (byte - 0x80)) (read + 1)
        (wanted - 1) 0x80 0xBF) (position + 1) rest = .ok text) := by
  cases bytes with
  | nil => cases found
  | cons byte rest =>
      rw [ofUtf8From.eq_def] at found
      dsimp only at found
      split at found
      · rename_i inRange
        simp only [Bool.and_eq_true, decide_eq_true_eq] at inRange
        refine ⟨byte, rest, rfl, inRange, fun last => ?_, fun more => ?_⟩
        · rw [if_pos last] at found
          exact Outcome.map_eq_ok_iff.mp found
        · rwa [if_neg more] at found
      · cases found

/-- What is read first is a code point, whose bytes stand first. -/
theorem exists_of_ofUtf8From {byte : Nat}
    (found : ofUtf8From .between position (byte :: bytes) = .ok text) :
    ∃ sign rest next later, Sign.isScalar sign = true ∧ byte :: bytes = utf8Bytes sign ++ rest ∧
      ofUtf8From .between next rest = .ok later ∧ text = sign :: later := by
  rw [ofUtf8From.eq_def] at found
  dsimp only at found
  split at found
  · cases found
  · rename_i low high opening
    obtain ⟨later, read, rfl⟩ := Outcome.map_eq_ok_iff.mp found
    obtain ⟨scalar, form⟩ := utf8Bytes_single opening
    exact ⟨byte, bytes, _, later, scalar, by rw [form]; rfl, read, rfl⟩
  · rename_i wanted low high more opening
    rcases wanted_of_utf8Opening? opening with rfl | rfl | rfl | rfl
    · exact absurd rfl more
    · obtain ⟨second, rest, rfl, inRange, last, -⟩ := exists_of_within found
      obtain ⟨later, read, rfl⟩ := last rfl
      obtain ⟨scalar, form⟩ := utf8Bytes_two opening inRange rfl
      exact ⟨_, rest, _, later, scalar, by rw [form]; rfl, read, rfl⟩
    · obtain ⟨second, _, rfl, inRange, -, found⟩ := exists_of_within found
      obtain ⟨third, rest, rfl, continues, last, -⟩ := exists_of_within (found (by decide))
      obtain ⟨later, read, rfl⟩ := last rfl
      obtain ⟨scalar, form⟩ := utf8Bytes_three opening inRange continues rfl
      exact ⟨_, rest, _, later, scalar, by rw [form]; rfl, read, rfl⟩
    · obtain ⟨second, _, rfl, inRange, -, found⟩ := exists_of_within found
      obtain ⟨third, _, rfl, continues, -, found⟩ := exists_of_within (found (by decide))
      obtain ⟨fourth, rest, rfl, ends, last, -⟩ := exists_of_within (found (by decide))
      obtain ⟨later, read, rfl⟩ := last rfl
      obtain ⟨scalar, form⟩ := utf8Bytes_four opening inRange continues ends rfl
      exact ⟨_, rest, _, later, scalar, by rw [form]; rfl, read, rfl⟩

/-- So the bytes are those of the code points. -/
theorem flatMap_of_ofUtf8From (found : ofUtf8From .between position bytes = .ok text) :
    IsScalar text ∧ text.flatMap utf8Bytes = bytes := by
  induction text generalizing position bytes with
  | nil =>
      cases bytes with
      | nil => exact ⟨List.forall_mem_nil _, rfl⟩
      | cons byte bytes =>
          obtain ⟨sign, rest, next, later, -, -, -, other⟩ := exists_of_ofUtf8From found
          cases other
  | cons first text ih =>
      cases bytes with
      | nil => cases found
      | cons byte bytes =>
          obtain ⟨sign, rest, next, later, scalar, whole, read, same⟩ := exists_of_ofUtf8From found
          obtain ⟨rfl, rfl⟩ := List.cons.inj same
          obtain ⟨others, form⟩ := ih read
          refine ⟨List.forall_mem_cons.mpr ⟨scalar, others⟩, ?_⟩
          rw [List.flatMap_cons, form, whole]

/-- **Bytes are read as a text exactly if they are its UTF-8 form.** -/
theorem ofUtf8_eq_ok_iff :
    ofUtf8 bytes = .ok text ↔ IsScalar text ∧ text.flatMap utf8Bytes = bytes := by
  constructor
  · exact flatMap_of_ofUtf8From
  · rintro ⟨scalar, rfl⟩
    exact ofUtf8_flatMap scalar

end Reading

end Text

end Coursework
