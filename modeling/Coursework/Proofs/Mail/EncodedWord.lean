import Coursework.Mail.EncodedWord
import Coursework.Proofs.Text.Base64
import Coursework.Proofs.Text.Utf8

/-! # Reading back encoded words

The encoded word of a text is read back as that text, whatever follows it. No end of it but the
whole begins another one.

* **`Mail.EncodedWord.read_append`** is the first statement, for words in UTF-8.
* **`Mail.EncodedWord.suffix_of_frame`** is the second: where a frame begins in the rest of a word,
  nothing of the word is behind it but its last sign. -/

namespace Coursework.Mail.EncodedWord

/-! ## (1) The form `q` -/

theorem hexValue?_capitalHexDigit :
    ∀ value < 16, Sign.hexValue? (Sign.capitalHexDigit value) = some value := by decide

/-- A byte is written without question marks. -/
theorem plain_of_mem_writeByte :
    ∀ byte < 0x100, ∀ sign ∈ writeByte byte, sign < 0x80 ∧ sign ≠ Sign.question := by
  decide +kernel

/-- The signs that stand for themselves are not those with a meaning in the form. -/
theorem ne_of_isPlain :
    ∀ byte < 0x100, isPlain byte = true → byte ≠ Sign.equals ∧ byte ≠ Sign.underscore := by
  decide +kernel

theorem readPlain_cons {byte : Nat} (other : byte ≠ Sign.equals) (bytes : List Nat) :
    readPlain (byte :: bytes) =
      (if byte = Sign.underscore then Sign.space else byte) :: readPlain bytes := by
  rw [readPlain.eq_3]
  rintro _ _ _ rfl
  exact absurd rfl other

/-- A byte is read back. -/
theorem readPlain_writeByte {byte : Nat} (below : byte < 0x100) (bytes : List Nat) :
    readPlain (writeByte byte ++ bytes) = byte :: readPlain bytes := by
  rw [writeByte]
  split
  · rename_i space
    rw [List.singleton_append, readPlain_cons (by decide), if_pos rfl, space]
  · split
    · rename_i plain
      obtain ⟨noEscape, noSpace⟩ := ne_of_isPlain byte below plain
      rw [List.singleton_append, readPlain_cons noEscape, if_neg noSpace]
    · have whole : byte / 16 * 16 + byte % 16 = byte := by omega
      simp only [List.cons_append, List.nil_append]
      rw [readPlain, hexValue?_capitalHexDigit _ (by omega),
        hexValue?_capitalHexDigit _ (by omega)]
      dsimp only
      rw [whole]

theorem readPlain_flatMap {bytes : List Nat} (fits : ∀ byte ∈ bytes, byte < 0x100) :
    readPlain (bytes.flatMap writeByte) = bytes := by
  induction bytes with
  | nil => rfl
  | cons byte bytes ih =>
      obtain ⟨first, others⟩ := List.forall_mem_cons.mp fits
      rw [List.flatMap_cons, readPlain_writeByte first, ih others]

/-! ## (2) Both forms -/

/-- How bytes are carried: the letter of a form, and what stands behind it. -/
inductive Carries (bytes : List Nat) : Nat → Text → Prop
  /-- The form `q`. -/
  | plain : Carries bytes 113 (bytes.flatMap writeByte)
  /-- The form `b`. -/
  | packed : Carries bytes 98 (Base64.encode Base64.standard bytes)

/-- The encoded word with the given form and content. -/
def framed (form : Nat) (content : Text) : Text :=
  Sign.equals :: Sign.question :: (("utf-8?" : Text) ++ form :: Sign.question :: content ++
    [Sign.question, Sign.equals])

theorem exists_writeBytes (bytes : List Nat) :
    ∃ form content, Carries bytes form content ∧
      writeBytes bytes = form :: Sign.question :: content := by
  rw [writeBytes]
  split
  · exact ⟨_, _, .plain, rfl⟩
  · exact ⟨_, _, .packed, rfl⟩

/-- A text without surrogates has an encoded word. -/
theorem exists_write {text : Text} (plain : text.hasSurrogate = false) :
    ∃ form content, Carries (text.flatMap Text.utf8Bytes) form content ∧
      write .utf8 text = .ok (framed form content) := by
  obtain ⟨form, content, carries, written⟩ := exists_writeBytes (text.flatMap Text.utf8Bytes)
  have bytes : Charset.utf8.bytes text = .ok (text.flatMap Text.utf8Bytes) :=
    Text.utf8_eq_ok plain
  refine ⟨form, content, carries, ?_⟩
  rw [write, bytes]
  change Except.ok _ = _
  rw [written, framed]
  simp only [List.append_assoc]
  rfl

section Carries

variable {bytes : List Nat} {form : Nat} {content : Text} (carries : Carries bytes form content)
  (fits : ∀ byte ∈ bytes, byte < 0x100)

include carries

theorem Carries.form_ne : form ≠ Sign.question ∧ form ≠ Sign.equals := by
  cases carries <;> decide

include fits

/-- What is carried is ASCII without question marks. -/
theorem Carries.plain_of_mem {sign : Nat} (member : sign ∈ content) :
    sign < 0x80 ∧ sign ≠ Sign.question := by
  cases carries with
  | plain =>
      obtain ⟨byte, inside, h⟩ := List.mem_flatMap.mp member
      exact plain_of_mem_writeByte byte (fits byte inside) sign h
  | packed => exact Base64.plain_of_mem_encode fits member

theorem Carries.question_not_mem : Sign.question ∉ content :=
  fun member => (carries.plain_of_mem fits member).2 rfl

/-- A content that begins with an escape has two digits behind it. -/
theorem Carries.beginsWithByte {behind : Text} (escape : content = Sign.equals :: behind)
    (rest : Text) : beginsWithByte (behind ++ rest) = true := by
  cases carries with
  | packed =>
      refine absurd ?_ (Base64.head?_encode fits)
      rw [escape]
      rfl
  | plain =>
      cases bytes with
      | nil => cases escape
      | cons byte bytes =>
          have below := fits byte List.mem_cons_self
          rw [List.flatMap_cons, writeByte] at escape
          split at escape
          · cases escape
          · split at escape
            · rename_i plain
              cases escape
              exact absurd rfl (ne_of_isPlain _ below plain).1
            · cases escape
              change (_ && _) = true
              rw [hexValue?_capitalHexDigit _ (by omega), hexValue?_capitalHexDigit _ (by omega)]
              rfl

end Carries

/-! ## (3) Frames -/

/-- Before the first end of a frame there is what precedes it. -/
theorem splitEnd?_append {before : Text} (absent : Sign.question ∉ before) (text : Text) :
    splitEnd? (before ++ text) =
      (splitEnd? text).map fun found => (before ++ found.1, found.2) := by
  induction before with
  | nil => exact (congrFun Option.map_id _).symm
  | cons sign before ih =>
      rw [List.mem_cons, not_or] at absent
      rw [List.cons_append, splitEnd?.eq_2, ih absent.2, Option.map_map]
      · rfl
      · rintro _ rfl
        exact absurd rfl absent.1

/-- A question mark before another sign ends no frame. -/
theorem splitEnd?_question {sign : Nat} (other : sign ≠ Sign.equals) (text : Text) :
    splitEnd? (Sign.question :: sign :: text) =
      (splitEnd? (sign :: text)).map fun found => (Sign.question :: found.1, found.2) := by
  rw [splitEnd?.eq_2]
  rintro _ _ ⟨⟩
  exact absurd rfl other

/-- A text without ends of a frame. -/
def Endless (text : Text) : Prop := ¬[Sign.question, Sign.equals] <:+: text

theorem Endless.of_isInfix {part text : Text} (endless : Endless text) (within : part <:+: text) :
    Endless part := fun inside => endless (inside.trans within)

theorem Endless.splitEnd? {text : Text} (endless : Endless text) :
    EncodedWord.splitEnd? text = none := by
  fun_induction EncodedWord.splitEnd? text with
  | case1 text => exact absurd ⟨[], text, rfl⟩ endless
  | case2 sign text _ ih =>
      rw [ih (endless.of_isInfix (List.suffix_cons sign text).isInfix)]
      rfl
  | case3 => rfl

theorem after?_frame (text : Text) :
    Text.after? (Sign.equals :: Sign.question :: text) ("=?" : Text) = some text := by
  have frame : Text.ofString "=?" = [Sign.equals, Sign.question] := by decide
  rw [frame, Text.after?, if_pos rfl, Text.after?, if_pos rfl, Text.after?]

/-- The first end of a frame behind the name of the character set and the letter of the form. -/
theorem splitEnd?_form {form : Nat} (other : form ≠ Sign.question ∧ form ≠ Sign.equals)
    (text : Text) :
    splitEnd? (("utf-8?" : Text) ++ form :: text) =
      (splitEnd? text).map fun found => (("utf-8?" : Text) ++ form :: found.1, found.2) := by
  have name : Text.ofString "utf-8?" = Text.ofString "utf-8" ++ [Sign.question] := by decide
  have unmarked : Sign.question ∉ Text.ofString "utf-8" := by decide
  have letter : Sign.question ∉ [form] := by simpa using other.1.symm
  rw [name, List.append_assoc, splitEnd?_append unmarked, List.singleton_append,
    splitEnd?_question other.2, ← List.singleton_append (x := form), splitEnd?_append letter,
    Option.map_map, Option.map_map]
  simp [Function.comp_def]

/-- What begins with the frame of an encoded word is read as one: its end is the first one behind
its form, also where its content begins with an escape. -/
theorem read_framed {bytes : List Nat} {form : Nat} {content text : Text}
    (carries : Carries bytes form content) (fits : ∀ byte ∈ bytes, byte < 0x100)
    (decoded : decodeInner? (("utf-8?" : Text) ++ form :: Sign.question :: content) = some text)
    (rest : Text) : read (framed form content ++ rest) = .found text rest := by
  have absent := carries.question_not_mem fits
  have whole : framed form content ++ rest = Sign.equals :: Sign.question ::
      (("utf-8?" : Text) ++ form :: Sign.question :: (content ++ Sign.question :: Sign.equals ::
        rest)) := by
    simp [framed]
  rw [whole, read, after?_frame, Option.bind_some, splitEnd?_form carries.form_ne]
  by_cases escape : ∃ behind, content = Sign.equals :: behind
  · -- the end in `?=XX` is none
    obtain ⟨behind, rfl⟩ := escape
    have absent : Sign.question ∉ behind := fun member => absent (List.mem_cons_of_mem _ member)
    have first : splitEnd? (Sign.question :: (Sign.equals :: behind ++
        Sign.question :: Sign.equals :: rest)) =
          some ([], behind ++ Sign.question :: Sign.equals :: rest) := by
      rw [List.cons_append, splitEnd?]
    have second : splitEnd? (behind ++ Sign.question :: Sign.equals :: rest) =
        some (behind, rest) := by
      rw [splitEnd?_append absent, splitEnd?, Option.map_some]
      simp
    have begins : beginsWithByte (behind ++ Sign.question :: Sign.equals :: rest) = true :=
      carries.beginsWithByte fits rfl _
    have marks : (Text.ofString "utf-8?" ++ [form]).count Sign.question < 2 := by
      rw [List.count_append, List.count_singleton, if_neg (by simpa using carries.form_ne.1)]
      decide
    have joined : Text.ofString "utf-8?" ++ [form] ++ Text.ofString "?=" ++ behind =
        Text.ofString "utf-8?" ++ form :: Sign.question :: Sign.equals :: behind := by
      simp [Text.ofString]
    rw [first, Option.map_some]
    simp only [begins, decide_eq_true marks, Bool.and_self, if_true, second, joined, decoded]
  · have found : splitEnd? (Sign.question :: (content ++ Sign.question :: Sign.equals :: rest)) =
        some (Sign.question :: content, rest) := by
      cases content with
      | nil =>
          rw [List.nil_append, splitEnd?_question (by decide), splitEnd?]
          rfl
      | cons sign content =>
          have other : sign ≠ Sign.equals := fun same => escape ⟨content, by rw [same]⟩
          rw [List.cons_append, splitEnd?_question other, ← List.cons_append,
            splitEnd?_append absent, splitEnd?]
          simp
    have marks : ¬(Text.ofString "utf-8?" ++ form :: Sign.question :: content).count
        Sign.question < 2 := by
      rw [List.count_append, List.count_cons, List.count_cons_self]
      have : (Text.ofString "utf-8?").count Sign.question = 1 := by decide
      omega
    rw [found, Option.map_some]
    simp only [decide_eq_false marks, Bool.and_false, Bool.false_eq_true, if_false, decoded]

/-- The encoded word of a text is read back, whatever follows it. -/
theorem read_append {text word : Text} (scalar : Text.IsScalar text)
    (written : write .utf8 text = .ok word) (rest : Text) :
    read (word ++ rest) = .found text rest := by
  obtain ⟨form, content, carries, h⟩ := exists_write scalar.hasSurrogate
  obtain rfl := Except.ok.inj (h.symm.trans written)
  have fits := scalar.utf8Bytes_lt
  refine read_framed carries fits ?_ rest
  have parts : Text.splitAt Sign.question
      (("utf-8?" : Text) ++ form :: Sign.question :: content) =
        [Text.ofString "utf-8", [form], content] := by
    have name : Text.ofString "utf-8?" = Text.ofString "utf-8" ++ [Sign.question] := by decide
    have letter : Sign.question ∉ [form] := by simpa using carries.form_ne.1.symm
    rw [name, List.append_assoc, List.singleton_append, Text.splitAt_append,
      ← List.singleton_append (x := form), Text.splitAt_append, Text.splitAt_of_not_mem (by decide),
      Text.splitAt_of_not_mem letter, Text.splitAt_of_not_mem (carries.question_not_mem fits)]
    rfl
  have ascii : Text.asciiStray content = .ok content :=
    Text.asciiStray_eq_ok fun sign member => (carries.plain_of_mem fits member).1
  have named : ∀ bytes, decode "utf-8" bytes = Text.ofUtf8Stray bytes := fun bytes => by
    rw [decode, if_pos (by decide)]
  have unstarred : (Text.ofString "utf-8").takeWhile (· != Sign.asterisk) = "utf-8" := by decide
  rw [decodeInner?, parts]
  dsimp only
  rw [ascii, unstarred]
  have back := Text.ofUtf8Stray_flatMap scalar
  cases carries with
  | plain =>
      rw [← readPlain_flatMap fits, ← named] at back
      exact congrArg some back
  | packed =>
      have read : readPacked (Base64.encode Base64.standard (text.flatMap Text.utf8Bytes)) =
          text.flatMap Text.utf8Bytes := by
        rw [readPacked, Base64.decodeLoosely?_encode fits]
        rfl
      rw [← read, ← named] at back
      exact congrArg some back

/-- An encoded word is ASCII and begins with its frame. -/
theorem exists_tail_of_write {text word : Text} (scalar : Text.IsScalar text)
    (written : write .utf8 text = .ok word) :
    word = Sign.equals :: word.tail ∧ ∀ sign ∈ word, sign < 0x80 := by
  obtain ⟨form, content, carries, h⟩ := exists_write scalar.hasSurrogate
  obtain rfl := Except.ok.inj (h.symm.trans written)
  refine ⟨rfl, ?_⟩
  have name : ∀ sign ∈ Text.ofString "utf-8?", sign < 0x80 := by decide
  have letter : form < 0x80 := by cases carries <;> decide
  have inner : ∀ sign ∈ content, sign < 0x80 := fun sign member =>
    (carries.plain_of_mem scalar.utf8Bytes_lt member).1
  simp only [framed, List.forall_mem_cons, List.forall_mem_append]
  exact ⟨by decide, by decide, ⟨name, letter, by decide, inner⟩, by decide, by decide⟩

/-! ## (4) No frame within a word -/

/-- A frame does not begin with another sign. -/
theorem suffix_of_cons {sign : Nat} (other : sign ≠ Sign.equals) {behind text : Text}
    (frame : Sign.equals :: behind <:+ sign :: text) : Sign.equals :: behind <:+ text := by
  rcases List.suffix_cons_iff.mp frame with h | h
  · exact absurd (List.head_eq_of_cons_eq h).symm other
  · exact h

theorem suffix_of_append {before : Text} (absent : Sign.equals ∉ before) {behind text : Text}
    (frame : Sign.equals :: behind <:+ before ++ text) : Sign.equals :: behind <:+ text := by
  induction before with
  | nil => exact frame
  | cons sign before ih =>
      rw [List.mem_cons, not_or] at absent
      exact ih absent.2 (suffix_of_cons (Ne.symm absent.1) frame)

/-- Where a frame begins in a content or behind it, nothing of the content is behind it. -/
theorem suffix_of_content {content behind rest : Text} (absent : Sign.question ∉ content)
    (frame : Sign.equals :: Sign.question :: behind <:+
      content ++ Sign.question :: Sign.equals :: rest) : behind <:+ Sign.equals :: rest := by
  induction content with
  | nil =>
      have later := suffix_of_cons (by decide) frame
      rcases List.suffix_cons_iff.mp later with h | h
      · rw [← List.tail_eq_of_cons_eq h]
        exact ⟨[Sign.equals, Sign.question], rfl⟩
      · exact ((List.suffix_cons _ _).trans (List.suffix_cons _ _)).trans
          (h.trans (List.suffix_cons _ _))
  | cons sign content ih =>
      rw [List.mem_cons, not_or] at absent
      rcases List.suffix_cons_iff.mp frame with h | h
      · -- the last sign of the content begins the frame that its end completes
        cases content with
        | nil =>
            cases h
            exact List.suffix_refl _
        | cons next content =>
            cases h
            exact absurd List.mem_cons_self absent.2
      · exact ih absent.2 h

/-- Where a frame begins in what is left of an encoded word and what follows it, nothing of the
word is behind it but its last sign. -/
theorem suffix_of_frame {text word rest behind : Text} (scalar : Text.IsScalar text)
    (written : write .utf8 text = .ok word)
    (frame : Sign.equals :: Sign.question :: behind <:+ word.tail ++ rest) :
    behind <:+ Sign.equals :: rest := by
  obtain ⟨form, content, carries, h⟩ := exists_write scalar.hasSurrogate
  obtain rfl := Except.ok.inj (h.symm.trans written)
  have name : Sign.equals ∉ Sign.question :: ("utf-8?" : Text) ++ [form, Sign.question] := by
    have ending : Sign.equals ∉ [form, Sign.question] := by
      rw [List.mem_cons, List.mem_singleton, not_or]
      exact ⟨carries.form_ne.2.symm, by decide⟩
    rw [List.mem_append, not_or]
    exact ⟨by decide, ending⟩
  have whole : (framed form content).tail ++ rest =
      (Sign.question :: ("utf-8?" : Text) ++ [form, Sign.question]) ++
        (content ++ Sign.question :: Sign.equals :: rest) := by
    simp [framed]
  rw [whole] at frame
  exact suffix_of_content (carries.question_not_mem scalar.utf8Bytes_lt)
    (suffix_of_append name frame)

end Coursework.Mail.EncodedWord
