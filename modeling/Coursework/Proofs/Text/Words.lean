import Coursework.Proofs.Text.Lines
import Coursework.Proofs.Text.Trimming

/-! # Words

* **`Text.Word`** holds of a text of signs that are no white space.
* **`Text.word_of_mem_words`**: the words of a text are such texts, of signs of the text.
* **`Text.trimmed_joinWith`**: joined texts are trimmed if the first and the last of them are.
* **`Text.words_joinWith`**: words that are joined with spaces are found again. -/

namespace Coursework.Text

variable {text : Text} {sign : Nat}

/-! ## (1) Words -/

/-- Some signs that are no white space. -/
structure Word (word : Text) : Prop where
  /-- There is a sign. -/
  shown : word ≠ []
  /-- No sign is white space. -/
  solid : ∀ sign ∈ word, Sign.isBlank sign = false

theorem Word.trimmed {word : Text} (h : word.Word) : word.Trimmed where
  first sign hfirst := h.solid sign (List.mem_of_mem_head? hfirst)
  last sign hlast := h.solid sign (List.mem_of_getLast? hlast)

theorem word_singleton (solid : Sign.isBlank sign = false) : Word [sign] where
  shown := List.cons_ne_nil _ _
  solid other h := by rw [List.mem_singleton.mp h, solid]

theorem Word.cons {word : Text} (h : word.Word) (solid : Sign.isBlank sign = false) :
    Word (sign :: word) where
  shown := List.cons_ne_nil _ _
  solid := List.forall_mem_cons.mpr ⟨solid, h.solid⟩

/-- The pieces between runs of white space are words. -/
theorem word_of_mem_words {word : Text} (member : word ∈ words text) :
    word.Word ∧ ∀ sign ∈ word, sign ∈ text := by
  induction text generalizing word with
  | nil => exact absurd member List.not_mem_nil
  | cons a text ih =>
      have later {word : Text} (h : word ∈ words text) :
          word.Word ∧ ∀ sign ∈ word, sign ∈ a :: text :=
        (ih h).imp_right fun h sign hsign => List.mem_cons_of_mem _ (h sign hsign)
      cases solid : Sign.isBlank a with
      -- white space begins no word
      | true =>
          cases text <;> rw [words, if_pos solid] at member <;> exact later member
      | false =>
          have single : Word [a] ∧ ∀ sign ∈ [a], sign ∈ a :: text :=
            ⟨word_singleton solid, fun sign h => List.mem_cons.mpr (.inl (List.mem_singleton.mp h))⟩
          have hsolid : ¬Sign.isBlank a = true := Bool.eq_false_iff.mp solid
          cases text with
          | nil =>
              rw [words, if_neg hsolid, List.mem_singleton] at member
              rw [member]
              exact single
          | cons b text =>
              rw [words, if_neg hsolid] at member
              split at member
              -- before white space a sign is a word of its own
              · rcases List.mem_cons.mp member with rfl | member
                · exact single
                · exact later member
              -- before another sign it begins the word of that sign
              · split at member
                · rw [List.mem_singleton.mp member]
                  exact single
                · rename_i first others hwords
                  rcases List.mem_cons.mp member with rfl | member
                  · obtain ⟨hfirst, hsigns⟩ := later (hwords ▸ List.mem_cons_self)
                    exact ⟨hfirst.cons solid, List.forall_mem_cons.mpr ⟨List.mem_cons_self, hsigns⟩⟩
                  · exact later (hwords ▸ List.mem_cons_of_mem _ member)

/-- A text that is not blank has words. -/
theorem words_ne_nil (shown : text.isBlank = false) : text.words ≠ [] := by
  induction text with
  | nil => cases shown
  | cons a text ih =>
      rw [isBlank, List.all_cons] at shown
      cases solid : Sign.isBlank a with
      | true =>
          rw [solid, Bool.true_and] at shown
          rw [words.eq_def]
          simp only [solid, if_true]
          exact ih shown
      | false =>
          rw [words.eq_def]
          simp only [solid, Bool.false_eq_true, if_false]
          split
          · exact List.cons_ne_nil _ _
          · split
            · exact List.cons_ne_nil _ _
            · split <;> exact List.cons_ne_nil _ _

section Solid

variable (solid : Sign.isBlank sign = false)

include solid

/-- A sign that is no white space stands in a word. -/
theorem exists_word_of_solid (h : sign ∈ text) : ∃ word ∈ text.words, sign ∈ word := by
  induction text with
  | nil => cases h
  | cons first text ih =>
      rw [words.eq_def]
      dsimp only
      split
      · rename_i blank
        rcases List.mem_cons.mp h with rfl | h
        · rw [solid] at blank
          cases blank
        · exact ih h
      -- a sign that is no white space is the first of a word, alone or before others
      · split
        · exact ⟨_, List.mem_cons_self, h⟩
        · split
          · rcases List.mem_cons.mp h with rfl | h
            · exact ⟨_, List.mem_cons_self, List.mem_cons_self⟩
            · obtain ⟨word, member, h⟩ := ih h
              exact ⟨word, List.mem_cons_of_mem _ member, h⟩
          · split
            · rename_i none
              rcases List.mem_cons.mp h with rfl | h
              · exact ⟨_, List.mem_cons_self, List.mem_cons_self⟩
              · obtain ⟨word, member, -⟩ := ih h
                rw [none] at member
                cases member
            · rename_i some
              rcases List.mem_cons.mp h with rfl | h
              · exact ⟨_, List.mem_cons_self, List.mem_cons_self⟩
              · obtain ⟨word, member, h⟩ := ih h
                rw [some] at member
                rcases List.mem_cons.mp member with rfl | member
                · exact ⟨_, List.mem_cons_self, List.mem_cons_of_mem _ h⟩
                · exact ⟨word, List.mem_cons_of_mem _ member, h⟩

/-- It stands on a line. -/
theorem exists_line_of_solid (h : sign ∈ text) : ∃ line ∈ text.lines, sign ∈ line := by
  rw [← joinWith_splitAt Sign.newline text] at h
  rcases mem_joinWith h with h | found
  · obtain rfl := List.mem_singleton.mp h
    cases solid
  · exact found

end Solid

/-! ## (2) Joined texts -/

/-- A text between two trimmed ones makes a trimmed text. -/
theorem Trimmed.append {first second : Text} (hfirst : first.Trimmed) (hsecond : second.Trimmed)
    (begins : first ≠ []) (ends : second ≠ []) (between : Text) :
    (first ++ between ++ second).Trimmed where
  first sign h := by
    obtain ⟨other, rest, rfl⟩ := List.exists_cons_of_ne_nil begins
    exact hfirst.first sign h
  last sign h := by
    rw [List.getLast?_append_of_ne_nil _ ends] at h
    exact hsecond.last sign h

/-- Trimmed texts that show something make such a text, whatever joins them. -/
theorem trimmed_joinWith (joint : Text) {pieces : List Text} (some : pieces ≠ [])
    (shown : ∀ piece ∈ pieces, piece ≠ [] ∧ piece.Trimmed) :
    joinWith joint pieces ≠ [] ∧ (joinWith joint pieces).Trimmed := by
  induction pieces with
  | nil => exact absurd rfl some
  | cons piece pieces ih =>
      obtain ⟨hpiece, hpieces⟩ := List.forall_mem_cons.mp shown
      cases pieces with
      | nil => exact hpiece
      | cons next pieces =>
          obtain ⟨hshown, htrimmed⟩ := ih (List.cons_ne_nil _ _) hpieces
          rw [joinWith_cons_cons]
          exact ⟨List.append_ne_nil_of_right_ne_nil _ hshown,
            hpiece.2.append htrimmed hpiece.1 hshown joint⟩

/-! ## (3) Joined words -/

/-- A word is found again before white space and at the end. -/
theorem words_append {word rest : Text} (h : word.Word)
    (ends : ∀ sign, rest.head? = some sign → Sign.isBlank sign = true) :
    words (word ++ rest) = word :: words rest := by
  induction word with
  | nil => exact absurd rfl h.shown
  | cons first word ih =>
      obtain ⟨solid, others⟩ := List.forall_mem_cons.mp h.solid
      cases word with
      | nil =>
          cases rest with
          | nil => simp [words, solid]
          | cons sign rest => simp [words, solid, ends sign rfl]
      | cons second word =>
          have later := ih ⟨List.cons_ne_nil _ _, others⟩
          have solidSecond := others second List.mem_cons_self
          rw [List.cons_append] at later
          rw [List.cons_append, List.cons_append, words.eq_def]
          simp only [solid, solidSecond, later, Bool.false_eq_true, if_false]

/-- Words that are joined with spaces are found again. -/
theorem words_joinWith {pieces : List Text} (isWord : ∀ piece ∈ pieces, Word piece) :
    words (joinWith [Sign.space] pieces) = pieces := by
  induction pieces with
  | nil => rfl
  | cons piece pieces ih =>
      obtain ⟨own, others⟩ := List.forall_mem_cons.mp isWord
      cases pieces with
      | nil =>
          have alone : words (piece ++ []) = piece :: words [] :=
            words_append own fun _ h => by cases h
          rwa [List.append_nil] at alone
      | cons next pieces =>
          have space : words (Sign.space :: joinWith [Sign.space] (next :: pieces)) =
              words (joinWith [Sign.space] (next :: pieces)) := by
            rw [words.eq_def]
            rfl
          rw [joinWith_cons_cons, List.append_assoc, List.singleton_append,
            words_append own fun sign h => by cases h; rfl, space, ih others]

end Coursework.Text
