import Coursework.Mail.Unstructured
import Coursework.Proofs.Mail.EncodedWord

/-! # Free text without encoded words

A text in which no encoded word begins is read as its words and its white space. Behind one encoded
word that is written, or what a line break leaves of it, nothing else begins, so that the text is
read back.

* **`Mail.Frameless`** says that no encoded word begins.
* **`Mail.freeText_of_frameless`** is the first statement, **`Mail.exists_writtenAll_freeText`** the
  second; **`Mail.Remnant`** is what can be left of an encoded word. -/

namespace Coursework.Mail

open EncodedWord (Endless)

/-! ## (1) Texts in which no encoded word begins -/

/-- Behind every beginning of a frame there is no end of it. -/
def Frameless (text : Text) : Prop :=
  ∀ behind, Sign.equals :: Sign.question :: behind <:+ text → Endless behind

theorem frameless_of_endless {text : Text} (endless : Endless text) : Frameless text :=
  fun _ frame => endless.of_isInfix
    (((List.suffix_cons _ _).trans (List.suffix_cons _ _)).trans frame).isInfix

section Frameless

variable {text : Text} (frameless : Frameless text)

include frameless

theorem Frameless.of_isInfix {part : Text} (within : part <:+: text) : Frameless part := by
  obtain ⟨before, after, rfl⟩ := within
  rintro behind ⟨start, rfl⟩
  have frame := frameless (behind ++ after) ⟨before ++ start, by simp⟩
  exact frame.of_isInfix (List.prefix_append behind after).isInfix

theorem Frameless.read : EncodedWord.read text = .absent := by
  rw [EncodedWord.read]
  cases frame : text.after? ("=?" : Text) with
  | none => rfl
  | some behind =>
      have whole := Text.eq_append_of_after? frame
      rw [Option.bind_some, (frameless behind ⟨[], whole.symm⟩).splitEnd?]

theorem Frameless.beginsHere : EncodedWord.beginsHere text = false := by
  rw [EncodedWord.beginsHere]
  cases frame : text.after? ("=?" : Text) with
  | none => rfl
  | some behind =>
      have whole := Text.eq_append_of_after? frame
      have endless := frameless behind ⟨[], whole.symm⟩
      dsimp only
      split
      · rename_i first form content h
        have within : content <:+: behind := by
          refine List.IsSuffix.isInfix (.trans ?_ (List.dropWhile_suffix (· != Sign.question)))
          rw [h]
          exact ⟨[first, form, Sign.question], rfl⟩
        have unended : Text.contains (content.takeWhile (· != Sign.newline)) "?=" = false := by
          rw [Bool.eq_false_iff]
          intro ended
          exact endless ((Text.isInfix_of_contains ended).trans
            ((List.takeWhile_prefix _).isInfix.trans within))
        rw [unended, Bool.and_false]
      · rfl

theorem Frameless.occursIn : EncodedWord.occursIn text = false := by
  induction text with
  | nil => rfl
  | cons sign text ih =>
      rw [EncodedWord.occursIn, frameless.beginsHere,
        ih (frameless.of_isInfix (List.suffix_cons sign text).isInfix)]
      rfl

/-- Its words end before white space. -/
theorem Frameless.wordAndRest :
    Mail.wordAndRest false text = (text.takeWhile (! isGap ·), text.dropWhile (! isGap ·)) := by
  have word := frameless.of_isInfix (List.takeWhile_prefix (! isGap ·)).isInfix
  rw [Mail.wordAndRest, word.occursIn]
  rfl

end Frameless

/-! ## (2) Words and white space -/

/-- A word without white space or white space. -/
def Piece.IsToken : Piece → Prop
  | .leaf .word text => text ≠ [] ∧ ∀ sign ∈ text, isGap sign = false
  | .leaf .blank text => text ≠ []
  | _ => False

theorem Piece.writtenAll_cons (piece : Piece) (pieces : List Piece) :
    Piece.writtenAll (piece :: pieces) = piece.written ++ Piece.writtenAll pieces := by
  rw [Piece.writtenAll]

/-- The gaps and words of a text make up the text. -/
theorem writtenAll_gapsAndWords {fuel : Nat} {text : Text} (enough : text.length ≤ fuel) :
    Piece.writtenAll (gapsAndWords fuel text) = text := by
  induction fuel generalizing text with
  | zero =>
      rw [List.length_eq_zero_iff.mp (Nat.le_zero.mp enough)]
      rfl
  | succ fuel ih =>
      cases text with
      | nil => rfl
      | cons sign rest =>
          have shorter : ∀ dropped : Nat → Bool, (rest.dropWhile dropped).length ≤ fuel :=
            fun dropped => by
              have := List.length_dropWhile_le dropped rest
              rw [List.length_cons] at enough
              omega
          rw [gapsAndWords]
          split
          · rw [Piece.writtenAll_cons, ih (shorter _)]
            simp [Piece.written]
          · rw [Piece.writtenAll_cons, ih (shorter _)]
            simp [Piece.written]

/-- An encoded word that is read is written as its text. -/
theorem written_decodedWord (text : Text) : (decodedWord text).written = text := by
  rw [decodedWord, Piece.written]
  · exact writtenAll_gapsAndWords le_rfl
  all_goals simp

/-! ## (3) Free text -/

theorem freeTextFrom_of_frameless {fuel : Nat} {text : Text} (frameless : Frameless text)
    (enough : text.length ≤ fuel) :
    Piece.writtenAll (freeTextFrom fuel text) = text ∧
      ∀ piece ∈ freeTextFrom fuel text, piece.IsToken := by
  induction fuel generalizing text with
  | zero =>
      rw [List.length_eq_zero_iff.mp (Nat.le_zero.mp enough)]
      exact ⟨rfl, by simp [freeTextFrom]⟩
  | succ fuel ih =>
      cases text with
      | nil => exact ⟨rfl, by simp [freeTextFrom]⟩
      | cons sign rest =>
          have others := fun dropped : Nat → Bool => by
            have := List.length_dropWhile_le dropped rest
            have within := (List.dropWhile_suffix (l := rest) dropped).trans
              (List.suffix_cons sign rest)
            rw [List.length_cons] at enough
            exact ih (frameless.of_isInfix within.isInfix) (by omega)
          rw [freeTextFrom]
          split
          · rw [Piece.writtenAll_cons, (others _).1, List.forall_mem_cons]
            refine ⟨by simp [Piece.written], List.cons_ne_nil _ _, (others _).2⟩
          · rename_i solid
            rw [frameless.read, frameless.wordAndRest]
            have whole : ∀ other ∈ rest.takeWhile (! isGap ·), isGap other = false :=
              fun other member => by simpa using List.mem_takeWhile_imp member
            simp only [List.takeWhile_cons, List.dropWhile_cons, solid, Bool.not_false, if_true]
            rw [Piece.writtenAll_cons, (others _).1, List.forall_mem_cons]
            refine ⟨by simp [Piece.written], ⟨List.cons_ne_nil _ _, ?_⟩, (others _).2⟩
            exact List.forall_mem_cons.mpr ⟨by simpa using solid, whole⟩

theorem Piece.IsToken.isEncodedWord {piece : Piece} (token : piece.IsToken) :
    piece.isEncodedWord = false := by
  cases piece with
  | leaf kind text => rfl
  | node kind parts => cases token

/-- Where there is at most one encoded word, and first, nothing is joined. -/
theorem Piece.joinWords_eq_self {pieces : List Piece}
    (none : ∀ piece ∈ pieces.tail, piece.isEncodedWord = false) :
    Piece.joinWords pieces = pieces := by
  fun_induction Piece.joinWords pieces with
  | case1 first text last pieces both ih =>
      rw [none last (by simp), Bool.and_false] at both
      cases both
  | case2 first text last pieces _ ih =>
      rw [ih fun piece member => none piece (by simp [List.mem_of_mem_tail member])]
  | case3 piece pieces _ ih => rw [ih fun piece member => none piece (List.mem_of_mem_tail member)]
  | case4 => rfl

/-- What is no encoded word is not joined to another. -/
theorem Piece.joinWords_leaf (kind : Leaf) (text : Text) (pieces : List Piece) :
    Piece.joinWords (.leaf kind text :: pieces) = .leaf kind text :: Piece.joinWords pieces := by
  induction pieces generalizing kind text with
  | nil => rfl
  | cons next pieces ih =>
      rw [Piece.joinWords.eq_def]
      split
      · rename_i first gap last others h
        cases h
        rw [ih]
        rfl
      · rename_i h
        cases h
        rfl
      · rename_i h
        cases h

/-- A text in which no encoded word begins is read as its words and its white space. -/
theorem freeText_of_frameless {text : Text} (frameless : Frameless text) :
    Piece.writtenAll (freeText text) = text ∧ ∀ piece ∈ freeText text, piece.IsToken := by
  obtain ⟨whole, tokens⟩ := freeTextFrom_of_frameless frameless le_rfl
  rw [freeText, Piece.joinWords_eq_self fun piece member =>
    (tokens piece (List.mem_of_mem_tail member)).isEncodedWord]
  exact ⟨whole, tokens⟩

/-! ## (4) Behind an encoded word -/

section Word

variable {text word rest : Text} (scalar : Text.IsScalar text)
  (written : EncodedWord.write .utf8 text = .ok word) (frameless : Frameless rest)

include scalar written

theorem freeTextFrom_word (fuel : Nat) :
    freeTextFrom (fuel + 1) (word ++ rest) = decodedWord text :: freeTextFrom fuel rest := by
  obtain ⟨frame, -⟩ := EncodedWord.exists_tail_of_write scalar written
  have found := EncodedWord.read_append scalar written rest
  rw [frame, List.cons_append] at found ⊢
  rw [freeTextFrom, if_neg (by decide), found]

include frameless

/-- One encoded word and what follows it are read back. -/
theorem writtenAll_freeText_word : Piece.writtenAll (freeText (word ++ rest)) = text ++ rest := by
  obtain ⟨frame, -⟩ := EncodedWord.exists_tail_of_write scalar written
  obtain ⟨fuel, hfuel⟩ : ∃ fuel, (word ++ rest).length = fuel + 1 := by
    rw [frame]
    exact ⟨_, rfl⟩
  have enough : rest.length ≤ fuel := by
    rw [frame, List.length_append, List.length_cons] at hfuel
    omega
  obtain ⟨whole, tokens⟩ := freeTextFrom_of_frameless frameless enough
  have unjoined : Piece.joinWords (decodedWord text :: freeTextFrom fuel rest) =
      decodedWord text :: freeTextFrom fuel rest :=
    Piece.joinWords_eq_self fun piece member => (tokens piece member).isEncodedWord
  rw [freeText, hfuel, freeTextFrom_word scalar written, unjoined, Piece.writtenAll_cons,
    written_decodedWord, whole]

/-- So are they behind one sign of white space. -/
theorem writtenAll_freeText_gap {gap : Nat} (blank : isGap gap = true) :
    Piece.writtenAll (freeText (gap :: word ++ rest)) = gap :: (text ++ rest) := by
  obtain ⟨frame, -⟩ := EncodedWord.exists_tail_of_write scalar written
  have apart : ∀ fuel, freeTextFrom (fuel + 1) (gap :: word ++ rest) =
      .leaf .blank [gap] :: freeTextFrom fuel (word ++ rest) := by
    intro fuel
    rw [frame, List.cons_append, List.cons_append, freeTextFrom, if_pos blank]
    rfl
  rw [freeText, List.cons_append, List.length_cons, ← List.cons_append, apart]
  have behind := writtenAll_freeText_word scalar written frameless
  rw [freeText] at behind
  rw [Piece.joinWords_leaf, Piece.writtenAll_cons, behind]
  rfl

end Word

/-! ## (5) What a line break leaves -/

/-- What is left of an encoded word with a sign of white space before it. -/
def Remnant (left : Text) : Prop :=
  ∃ text word gap, Text.IsScalar text ∧ EncodedWord.write .utf8 text = .ok word ∧
    isGap gap = true ∧ left <:+ gap :: word

/-- It is read as a text that has an encoded word, and what follows it is read as it is. -/
theorem exists_writtenAll_freeText {left rest : Text} (remnant : Remnant left)
    (endless : Endless rest) :
    ∃ text, Text.IsScalar text ∧ Piece.writtenAll (freeText (left ++ rest)) = text ++ rest := by
  obtain ⟨text, word, gap, scalar, written, blank, later⟩ := remnant
  have frameless := frameless_of_endless endless
  obtain ⟨frame, ascii⟩ := EncodedWord.exists_tail_of_write scalar written
  rcases List.suffix_cons_iff.mp later with rfl | later
  · have space : Text.IsScalar [gap] := by
      refine Text.isScalar_of_forall_lt (List.forall_mem_singleton.mpr ?_)
      simp only [isGap, Bool.or_eq_true, decide_eq_true_eq] at blank
      rcases blank with rfl | rfl <;> decide
    exact ⟨gap :: text, Text.isScalar_append.mpr ⟨space, scalar⟩,
      writtenAll_freeText_gap scalar written frameless blank⟩
  · rw [frame] at later
    rcases List.suffix_cons_iff.mp later with rfl | later
    · refine ⟨text, scalar, ?_⟩
      rw [← frame]
      exact writtenAll_freeText_word scalar written frameless
    · -- a part of the word is no word any more
      have part : left ⊆ word := (later.trans (List.tail_suffix word)).subset
      refine ⟨left, Text.isScalar_of_forall_lt fun sign member => ascii sign (part member), ?_⟩
      refine (freeText_of_frameless fun behind begins => ?_).1
      have within : left ++ rest <:+ word.tail ++ rest := by
        obtain ⟨before, h⟩ := later
        exact ⟨before, by rw [← List.append_assoc, h]⟩
      have behind := EncodedWord.suffix_of_frame scalar written (begins.trans within)
      refine Endless.of_isInfix (fun ended => ?_) behind.isInfix
      rcases List.infix_cons_iff.mp ended with h | h
      · exact absurd (List.cons_prefix_cons.mp h).1 (by decide)
      · exact endless h

end Coursework.Mail
