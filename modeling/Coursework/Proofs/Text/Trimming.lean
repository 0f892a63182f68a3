import Coursework.Text.Blank
import Mathlib.Data.List.DropRight

/-! # Trimmed texts

* **`Text.Trimmed`** holds of a text that neither begins nor ends with white space.
* **`Text.trimmed_strip`** and **`Text.strip_eq_self`**: trimming gives such a text, and changes
  no such text. -/

namespace Coursework.Text

variable {dropped : Nat → Bool} {text : Text} {sign : Nat}

/-! ## (1) Trimming in general -/

/-- A text is not trimmed at its end if its last sign stays. -/
theorem trimEnd_eq_self (last : ∀ sign, text.getLast? = some sign → dropped sign = false) :
    trimEnd dropped text = text := by
  refine List.rdropWhile_eq_self_iff.mpr fun some h => ?_
  rw [last _ (List.getLast?_eq_getLast_of_ne_nil some)] at h
  cases h

/-- The last sign of a text that was trimmed at its end stays. -/
theorem getLast?_trimEnd (h : (trimEnd dropped text).getLast? = some sign) :
    dropped sign = false := by
  have some : trimEnd dropped text ≠ [] := by
    intro hnone
    rw [hnone] at h
    cases h
  rw [List.getLast?_eq_getLast_of_ne_nil some, Option.some.injEq] at h
  rw [← h]
  exact Bool.eq_false_iff.mpr (List.rdropWhile_last_not dropped text some)

/-- A text whose two end signs stay is not trimmed. -/
theorem trim_eq_self (first : ∀ sign, text.head? = some sign → dropped sign = false)
    (last : ∀ sign, text.getLast? = some sign → dropped sign = false) :
    trim dropped text = text := by
  have hstart : text.dropWhile dropped = text := by
    cases text with
    | nil => rfl
    | cons sign text => rw [List.dropWhile_cons, first sign rfl]; rfl
  rw [trim, hstart]
  exact trimEnd_eq_self last

/-- A sign that stays keeps what stands before it. -/
theorem trimEnd_append_cons (kept : dropped sign = false) (first second : Text) :
    trimEnd dropped (first ++ sign :: second) = first ++ sign :: trimEnd dropped second := by
  have hkept : ¬ dropped sign = true := Bool.eq_false_iff.mp kept
  rw [trimEnd, trimEnd, List.reverse_append, List.reverse_cons, List.append_assoc,
    List.dropWhile_append]
  split
  · rename_i h
    rw [List.isEmpty_iff.mp h, List.singleton_append, List.dropWhile_cons_of_neg hkept]
    simp
  · simp

theorem length_trimEnd_le (dropped : Nat → Bool) (text : Text) :
    (trimEnd dropped text).length ≤ text.length :=
  (List.rdropWhile_prefix dropped text).length_le

/-- A text gets shorter if its last sign does not stay. -/
theorem length_trimEnd_lt (h : text.getLast? = some sign) (gone : dropped sign = true) :
    (trimEnd dropped text).length < text.length := by
  obtain ⟨front, rfl⟩ := List.getLast?_eq_some_iff.mp h
  have hfront : trimEnd dropped (front ++ [sign]) = trimEnd dropped front :=
    List.rdropWhile_concat_pos dropped front sign gone
  have hle := length_trimEnd_le dropped front
  rw [hfront, List.length_append, List.length_singleton]
  omega

/-- What is left after trimming the end begins like the text. -/
theorem head?_trimEnd (h : (trimEnd dropped text).head? = some sign) :
    text.head? = some sign := by
  obtain ⟨rest, hrest⟩ := List.rdropWhile_prefix dropped text
  obtain ⟨others, hothers⟩ := List.head?_eq_some_iff.mp h
  have htext : trimEnd dropped text ++ rest = text := hrest
  rw [← htext, hothers]
  rfl

/-- The first sign of a trimmed text stays. -/
theorem head?_trim (h : (trim dropped text).head? = some sign) : dropped sign = false := by
  have hstart : (text.dropWhile dropped).head? = some sign := head?_trimEnd h
  have hnot := List.head?_dropWhile_not dropped text
  rw [hstart] at hnot
  exact hnot

/-- The last sign of a trimmed text stays. -/
theorem getLast?_trim (h : (trim dropped text).getLast? = some sign) : dropped sign = false :=
  @getLast?_trimEnd dropped (text.dropWhile dropped) sign h

/-- A trimmed text is a part of the text. -/
theorem trim_isInfix (dropped : Nat → Bool) (text : Text) : trim dropped text <:+: text :=
  (List.rdropWhile_prefix dropped _).isInfix.trans (List.dropWhile_suffix dropped).isInfix

/-- Nothing is left exactly if every sign is dropped. -/
theorem trim_eq_nil_iff : trim dropped text = [] ↔ text.all dropped = true := by
  have hend : trim dropped text = (text.dropWhile dropped).rdropWhile dropped := rfl
  rw [hend, List.rdropWhile_eq_nil_iff, List.all_eq_true]
  constructor
  · intro h
    have hnone : text.dropWhile dropped = [] := by
      cases hstart : text.dropWhile dropped with
      | nil => rfl
      | cons sign rest =>
          have hnot := List.head?_dropWhile_not dropped text
          rw [hstart] at h hnot
          rw [List.head?_cons] at hnot
          exact absurd (h sign List.mem_cons_self) (by rw [hnot]; exact Bool.false_ne_true)
    exact List.dropWhile_eq_nil_iff.mp hnone
  · exact fun h sign member => h sign (List.dropWhile_subset dropped member)

/-! ## (2) White space -/

/-- A text neither begins nor ends with white space. -/
structure Trimmed (text : Text) : Prop where
  /-- The first sign is no white space. -/
  first : ∀ sign, text.head? = some sign → Sign.isBlank sign = false
  /-- Neither is the last. -/
  last : ∀ sign, text.getLast? = some sign → Sign.isBlank sign = false

theorem trimmed_strip (text : Text) : text.strip.Trimmed where
  first _ h := head?_trim h
  last _ h := getLast?_trim h

theorem strip_eq_self (trimmed : text.Trimmed) : text.strip = text :=
  trim_eq_self trimmed.first trimmed.last

/-- Trimmed texts are those that trimming does not change. -/
theorem trimmed_iff : text.Trimmed ↔ text.strip = text :=
  ⟨strip_eq_self, fun h => h ▸ text.trimmed_strip⟩

instance (text : Text) : Decidable text.Trimmed := decidable_of_iff _ trimmed_iff.symm

theorem strip_isInfix (text : Text) : text.strip <:+: text := trim_isInfix _ _

theorem mem_of_mem_strip (h : sign ∈ text.strip) : sign ∈ text := text.strip_isInfix.subset h

/-- A text that begins with no white space still begins with that sign when it is trimmed. -/
theorem exists_strip_cons (solid : Sign.isBlank sign = false) (text : Text) :
    ∃ rest, strip (sign :: text) = sign :: rest := by
  have begun : stripStart (sign :: text) = [] ++ sign :: text :=
    List.dropWhile_cons_of_neg (Bool.eq_false_iff.mp solid)
  rw [strip, begun, stripEnd, trimEnd_append_cons solid]
  exact ⟨_, rfl⟩

/-- Nothing is left of a blank text alone. -/
theorem strip_eq_nil_iff : text.strip = [] ↔ text.isBlank = true := trim_eq_nil_iff

/-- A trimmed text is not blank unless it is empty. -/
theorem Trimmed.isBlank (trimmed : text.Trimmed) (filled : text ≠ []) : text.isBlank = false := by
  rw [← strip_eq_self trimmed, Ne, strip_eq_nil_iff] at filled
  exact Bool.eq_false_iff.mpr filled

/-! ## (3) Signs that stay -/

theorem mem_dropWhile_of_kept (kept : dropped sign = false) (h : sign ∈ text) :
    sign ∈ text.dropWhile dropped := by
  induction text with
  | nil => cases h
  | cons other text ih =>
      rw [List.dropWhile_cons]
      split
      · rename_i gone
        rcases List.mem_cons.mp h with rfl | h
        · rw [kept] at gone
          cases gone
        · exact ih h
      · exact h

theorem mem_trimEnd_of_kept (kept : dropped sign = false) (h : sign ∈ text) :
    sign ∈ trimEnd dropped text := by
  obtain ⟨front, rest, rfl⟩ := List.append_of_mem h
  rw [trimEnd_append_cons kept]
  exact List.mem_append_right _ List.mem_cons_self

/-- Trimming takes white space only. -/
theorem mem_strip_of_solid (solid : Sign.isBlank sign = false) (h : sign ∈ text) :
    sign ∈ text.strip :=
  mem_trimEnd_of_kept solid (mem_dropWhile_of_kept solid h)

end Coursework.Text
