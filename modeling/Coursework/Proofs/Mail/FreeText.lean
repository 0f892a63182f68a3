import Coursework.Proofs.Mail.Unstructured
import Coursework.Proofs.Outcome

/-! # What free text is read as

Also with encoded words in it, a free text is read as words, white space and decoded words, and what
is decoded are code points.

* **`Text.IsCoded`** are the texts of code points, **`Text.isCoded_ofUtf8Stray`** reads one.
* **`Mail.Piece.IsFreeToken`** is what a free text is read as, by **`Mail.isFreeToken_freeText`**.
* **`Mail.isCoded_freeText`**: reading a text of code points gives one. -/

namespace Coursework

/-! ## (1) Code points -/

namespace Text

/-- A text of code points. -/
def IsCoded (text : Text) : Prop := ∀ sign ∈ text, sign < 0x110000

theorem IsCoded.of_subset {part text : Text} (coded : IsCoded text) (within : part ⊆ text) :
    IsCoded part := fun sign member => coded sign (within member)

theorem isCoded_append {first second : Text} :
    IsCoded (first ++ second) ↔ IsCoded first ∧ IsCoded second := List.forall_mem_append

/-- Bytes are numbers below 256. -/
def AreBytes (bytes : List Nat) : Prop := ∀ byte ∈ bytes, byte < 0x100

theorem areBytes_cons {byte : Nat} {bytes : List Nat} :
    AreBytes (byte :: bytes) ↔ byte < 0x100 ∧ AreBytes bytes := List.forall_mem_cons

theorem AreBytes.isCoded {bytes : List Nat} (fits : AreBytes bytes) : IsCoded bytes :=
  fun byte member => (fits byte member).trans (by decide)

/-- What a reader of bytes has read of a code point, with whatever may follow, is one. -/
def Utf8State.Bounded : Utf8State → Prop
  | .between => True
  | .within _ value _ wanted low high =>
    0x80 ≤ low ∧
      (wanted = 1 ∧ value * 0x40 + (high - 0x80) < 0x110000 ∨
        wanted = 2 ∧ value * 0x40 + (high - 0x80) < 0x4400 ∨
        wanted = 3 ∧ value * 0x40 + (high - 0x80) < 0x110)

/-- An opening byte is bounded. -/
theorem bounded_of_utf8Opening? {byte wanted low high read : Nat}
    (opening : utf8Opening? byte = some (wanted, low, high)) (more : wanted ≠ 0) :
    (Utf8State.within byte
      (if wanted = 1 then byte - 0xC0 else if wanted = 2 then byte - 0xE0 else byte - 0xF0) read
      wanted low high).Bounded := by
  rw [utf8Opening?] at opening
  simp only [Bool.and_eq_true, decide_eq_true_eq] at opening
  split_ifs at opening <;> cases opening
  · exact absurd rfl more
  all_goals
    simp only [Utf8State.Bounded, reduceIte, Nat.reduceEqDiff, true_and, false_and, or_false,
      false_or]
    omega

/-- A byte that continues a code point leaves it bounded, and completes it if it is the last. -/
theorem bounded_of_within {opening value read wanted low high byte : Nat}
    (bounded : (Utf8State.within opening value read wanted low high).Bounded)
    (least : low ≤ byte) (most : byte ≤ high) :
    (wanted = 1 → value * 0x40 + (byte - 0x80) < 0x110000) ∧
      (wanted ≠ 1 → (Utf8State.within opening (value * 0x40 + (byte - 0x80)) (read + 1)
        (wanted - 1) 0x80 0xBF).Bounded) := by
  simp only [Utf8State.Bounded] at bounded ⊢
  omega

theorem isCoded_ofUtf8From {state : Utf8State} {position : Nat} {bytes : List Nat} {text : Text}
    (bounded : state.Bounded) (read : ofUtf8From state position bytes = .ok text) :
    IsCoded text := by
  induction bytes generalizing state position text with
  | nil =>
      cases state with
      | between =>
          cases read
          exact List.forall_mem_nil _
      | within => cases read
  | cons byte bytes ih =>
      have cons : ∀ {sign : Nat}, sign < 0x110000 →
          (ofUtf8From .between (position + 1) bytes).map (sign :: ·) = .ok text → IsCoded text := by
        intro sign below read
        obtain ⟨rest, later, rfl⟩ := Outcome.map_eq_ok_iff.mp read
        exact List.forall_mem_cons.mpr ⟨below, @ih .between _ _ trivial later⟩
      cases state with
      | between =>
          rw [ofUtf8From.eq_def] at read
          dsimp only at read
          split at read
          · cases read
          · rename_i opening
            refine cons ?_ read
            rw [utf8Opening?] at opening
            split_ifs at opening <;> first | omega | cases opening
          · rename_i wanted low high more opening
            refine ih (bounded_of_utf8Opening? opening ?_) read
            rintro rfl
            exact more rfl
      | within opening value given wanted low high =>
          rw [ofUtf8From.eq_def] at read
          dsimp only at read
          split at read
          · rename_i inRange
            simp only [Bool.and_eq_true, decide_eq_true_eq] at inRange
            obtain ⟨last, other⟩ := bounded_of_within bounded inRange.1 inRange.2
            split at read
            · rename_i single
              exact cons (last single) read
            · rename_i more
              exact ih (other more) read
          · cases read

/-- Bytes are read as code points, stray ones included. -/
theorem isCoded_ofUtf8Stray {bytes : List Nat} (fits : AreBytes bytes) :
    IsCoded (ofUtf8Stray bytes) := by
  fun_induction ofUtf8Stray bytes with
  | case1 => exact List.forall_mem_nil _
  | case2 byte bytes width found ih =>
      refine isCoded_append.mpr ⟨?_, ih fun other member => fits other
        (List.mem_cons_of_mem byte (List.mem_of_mem_drop member))⟩
      cases read : ofUtf8 ((byte :: bytes).take width) with
      | error => exact List.forall_mem_nil _
      | ok text => exact @isCoded_ofUtf8From .between _ _ _ trivial read
  | case3 byte bytes _ ih =>
      obtain ⟨first, others⟩ := areBytes_cons.mp fits
      refine List.forall_mem_cons.mpr ⟨?_, ih others⟩
      rw [strayByte]
      omega

end Text

/-! ## (2) Encoded words -/

namespace Base64

/-- What is read of base 64 are bytes, if what is left of the last sign fits. -/
theorem areBytes_decodeLooselyFrom {alphabet : Alphabet}
    (values : ∀ {sign value : Nat}, alphabet.value? sign = some value → value < 64)
    {pads count left : Nat} {text : Text} {bytes : List Nat}
    (small : count = 1 ∧ left < 64 ∨ count = 2 ∧ left < 16 ∨ count ≠ 1 ∧ count ≠ 2 ∧ left < 4)
    (read : decodeLooselyFrom alphabet pads count left text = some bytes) :
    Text.AreBytes bytes := by
  induction text generalizing pads count left bytes with
  | nil =>
      rw [decodeLooselyFrom] at read
      split at read <;> cases read
      exact List.forall_mem_nil _
  | cons sign text ih =>
      have cons : ∀ {byte pads count left : Nat}, byte < 0x100 →
          (count = 1 ∧ left < 64 ∨ count = 2 ∧ left < 16 ∨ count ≠ 1 ∧ count ≠ 2 ∧ left < 4) →
          (decodeLooselyFrom alphabet pads count left text).map (byte :: ·) = some bytes →
          Text.AreBytes bytes := by
        intro byte pads count left below small read
        obtain ⟨rest, later, rfl⟩ := Option.map_eq_some_iff.mp read
        exact Text.areBytes_cons.mpr ⟨below, ih small later⟩
      rw [decodeLooselyFrom] at read
      split at read
      · split at read
        · cases read
          exact List.forall_mem_nil _
        · exact ih small read
      · split at read
        · exact ih small read
        · rename_i value found
          have below := values found
          split at read
          · exact ih (.inl ⟨rfl, below⟩) read
          · exact cons (by omega) (by omega) read
          · exact cons (by omega) (by omega) read
          · rename_i notOne notTwo
            have other : count ≠ 1 ∧ count ≠ 2 := ⟨notOne, notTwo⟩
            exact cons (by omega) (by omega) read

end Base64

namespace Mail.EncodedWord

open Text (IsCoded AreBytes areBytes_cons)

theorem value?_lt {sign value : Nat} (found : Base64.standard.value? sign = some value) :
    value < 64 := by
  rw [Base64.Alphabet.value?] at found
  simp only [Sign.isUpper, Sign.isLower, Sign.isDigit, Bool.and_eq_true, decide_eq_true_eq] at found
  split_ifs at found <;> cases found <;> omega

theorem hexValue?_lt {sign value : Nat} (found : Sign.hexValue? sign = some value) :
    value < 16 := by
  rw [Sign.hexValue?] at found
  simp only [Sign.isDigit, Bool.and_eq_true, decide_eq_true_eq] at found
  split_ifs at found <;> cases found <;> omega

theorem areBytes_readPlain {bytes : List Nat} (fits : AreBytes bytes) :
    AreBytes (readPlain bytes) := by
  fun_induction readPlain bytes with
  | case1 => exact List.forall_mem_nil _
  | case2 high low bytes first second hfirst hsecond ih =>
      have := hexValue?_lt hfirst
      have := hexValue?_lt hsecond
      simp only [areBytes_cons] at fits ⊢
      exact ⟨by omega, ih fits.2.2.2⟩
  | case3 high low bytes _ ih =>
      exact areBytes_cons.mpr ⟨by decide, ih (areBytes_cons.mp fits).2⟩
  | case4 byte bytes _ ih =>
      obtain ⟨first, others⟩ := areBytes_cons.mp fits
      refine areBytes_cons.mpr ⟨?_, ih others⟩
      split
      · decide
      · exact first

theorem areBytes_readPacked {bytes : List Nat} (fits : AreBytes bytes) :
    AreBytes (readPacked bytes) := by
  rw [readPacked]
  cases read : Base64.decodeLoosely? Base64.standard (bytes ++ [Sign.equals, Sign.equals]) with
  | none => exact fits
  | some found => exact Base64.areBytes_decodeLooselyFrom value?_lt (by decide) read

/-- ASCII with stray bytes are bytes. -/
theorem areBytes_asciiStray {text : Text} {bytes : List Nat}
    (encoded : text.asciiStray = .ok bytes) : AreBytes bytes := by
  rw [Text.asciiStray, Text.encodeStray] at encoded
  split at encoded
  · rename_i admitted
    cases encoded
    intro byte member
    obtain ⟨sign, inside, own⟩ := List.mem_flatMap.mp member
    have kind := List.dropWhile_eq_nil_iff.mp admitted sign inside
    split at own
    · rename_i stray found
      obtain rfl := List.mem_singleton.mp own
      rw [Text.strayByte?] at found
      split at found
      · rename_i inRange
        rw [Bool.and_eq_true, decide_eq_true_eq, decide_eq_true_eq] at inRange
        have := Option.some.inj found
        omega
      · cases found
    · rename_i none
      rw [none, Option.isSome_none, Bool.or_false, decide_eq_true_eq] at kind
      rw [List.mem_singleton.mp own]
      omega
  · cases encoded

theorem isCoded_decode {bytes : List Nat} (fits : AreBytes bytes) (name : Text) :
    IsCoded (decode name bytes) := by
  rw [decode]
  split
  · exact Text.isCoded_ofUtf8Stray fits
  · split
    · exact fits.isCoded
    · intro sign member
      obtain ⟨byte, inside, rfl⟩ := List.mem_map.mp member
      have := fits byte inside
      split
      · omega
      · rw [Text.strayByte]
        omega

theorem isCoded_decodeInner? {inner text : Text} (decoded : decodeInner? inner = some text) :
    IsCoded text := by
  rw [decodeInner?] at decoded
  split at decoded
  · rename_i charset form content parts
    obtain ⟨bytes, ascii, decoded⟩ := Option.bind_eq_some_iff.mp decoded
    have fits : AreBytes bytes := by
      cases encoded : Text.asciiStray content with
      | error => rw [encoded] at ascii; cases ascii
      | ok found =>
          rw [encoded] at ascii
          cases ascii
          exact areBytes_asciiStray encoded
    dsimp only at decoded
    split at decoded
    · cases decoded
    · split at decoded <;> cases decoded
      · exact isCoded_decode (areBytes_readPlain fits) _
      · exact isCoded_decode (areBytes_readPacked fits) _
  · cases decoded

theorem splitEnd?_subset {text before rest : Text} (found : splitEnd? text = some (before, rest)) :
    rest ⊆ text := by
  fun_induction splitEnd? text generalizing before rest with
  | case1 text =>
      cases found
      exact List.subset_cons_of_subset _ (List.subset_cons_self _ _)
  | case2 sign text _ ih =>
      obtain ⟨⟨start, behind⟩, inner, same⟩ := Option.map_eq_some_iff.mp found
      cases same
      exact List.subset_cons_of_subset _ (ih inner)
  | case3 => cases found

/-- What is decoded are code points, and what follows stood there before. -/
theorem isCoded_of_read {text decoded rest : Text} (found : read text = .found decoded rest) :
    IsCoded decoded ∧ rest ⊆ text := by
  rw [read] at found
  split at found
  · cases found
  · rename_i inner behind framed
    obtain ⟨content, start, ended⟩ := Option.bind_eq_some_iff.mp framed
    have within : content ⊆ text := by
      rw [Text.eq_append_of_after? start]
      exact List.subset_append_right _ _
    have first := splitEnd?_subset ended
    dsimp only at found
    split at found
    · rename_i decoding
      cases found
      refine ⟨isCoded_decodeInner? decoding, List.Subset.trans ?_ within⟩
      split
      · split
        · rename_i later
          exact List.Subset.trans (splitEnd?_subset later) first
        · exact List.nil_subset _
      · exact first
    · cases found

end Mail.EncodedWord

/-! ## (3) Free text -/

namespace Mail

open Text (IsCoded)

/-- What a free text is made of: words, white space that begins with a gap, white space that was
dropped, and decoded words. -/
inductive Piece.IsFreeToken : Piece → Prop
  /-- A word. -/
  | word (text : Text) : IsFreeToken (.leaf .word text)
  /-- White space. -/
  | blank {gap : Nat} (opens : isGap gap = true) (text : Text) :
    IsFreeToken (.leaf .blank (gap :: text))
  /-- White space between encoded words. -/
  | joint (text : Text) : IsFreeToken (.leaf .joint text)
  /-- An encoded word. -/
  | decoded (text : Text) : IsFreeToken (decodedWord text)

/-- A piece of free text that is written in code points. -/
def Piece.IsCodedToken (piece : Piece) : Prop := piece.IsFreeToken ∧ IsCoded piece.written

theorem Piece.mem_writtenAll {pieces : List Piece} {sign : Nat} :
    sign ∈ Piece.writtenAll pieces ↔ ∃ piece ∈ pieces, sign ∈ piece.written := by
  induction pieces with
  | nil => simp [Piece.writtenAll]
  | cons piece pieces ih => simp [Piece.writtenAll, ih]

/-- What an encoded word holds are words and white space. -/
theorem isFreeToken_gapsAndWords {fuel : Nat} {text : Text} :
    ∀ piece ∈ gapsAndWords fuel text, piece.IsFreeToken := by
  induction fuel generalizing text with
  | zero => exact List.forall_mem_nil _
  | succ fuel ih =>
      cases text with
      | nil => exact List.forall_mem_nil _
      | cons sign rest =>
          rw [gapsAndWords]
          split
          · rename_i gap
            exact List.forall_mem_cons.mpr ⟨.blank gap _, ih⟩
          · exact List.forall_mem_cons.mpr ⟨.word _, ih⟩

theorem beforeFrame_subset (text : Text) :
    (beforeFrame text).1 ⊆ text ∧ (beforeFrame text).2 ⊆ text := by
  fun_induction beforeFrame text with
  | case1 text => exact ⟨List.nil_subset _, List.Subset.refl _⟩
  | case2 sign text _ before rest parts ih =>
      rw [parts] at ih
      exact ⟨List.cons_subset_cons _ ih.1, List.subset_cons_of_subset _ ih.2⟩
  | case3 => exact ⟨List.nil_subset _, List.nil_subset _⟩

theorem wordAndRest_subset (malformed : Bool) (text : Text) :
    (wordAndRest malformed text).1 ⊆ text ∧ (wordAndRest malformed text).2 ⊆ text := by
  rw [wordAndRest]
  split
  · exact beforeFrame_subset text
  · exact ⟨List.takeWhile_subset _, List.dropWhile_subset _⟩

theorem isCodedToken_freeTextFrom {fuel : Nat} {text : Text} (coded : IsCoded text) :
    ∀ piece ∈ freeTextFrom fuel text, piece.IsCodedToken := by
  induction fuel generalizing text with
  | zero => exact List.forall_mem_nil _
  | succ fuel ih =>
      cases text with
      | nil => exact List.forall_mem_nil _
      | cons sign rest =>
          have word (malformed : Bool) : ∀ piece ∈
              .leaf .word (wordAndRest malformed (sign :: rest)).1 ::
                freeTextFrom fuel (wordAndRest malformed (sign :: rest)).2,
              piece.IsCodedToken := by
            obtain ⟨first, others⟩ := wordAndRest_subset malformed (sign :: rest)
            exact List.forall_mem_cons.mpr
              ⟨⟨.word _, coded.of_subset first⟩, ih (coded.of_subset others)⟩
          rw [freeTextFrom]
          split
          · rename_i gap
            refine List.forall_mem_cons.mpr ⟨⟨.blank gap _, ?_⟩, ih ?_⟩
            · exact coded.of_subset (List.cons_subset_cons _ (List.takeWhile_subset _))
            · exact coded.of_subset
                (List.subset_cons_of_subset _ (List.dropWhile_subset _))
          · split
            · rename_i decoded behind found
              obtain ⟨hdecoded, within⟩ := EncodedWord.isCoded_of_read found
              refine List.forall_mem_cons.mpr ⟨⟨.decoded _, ?_⟩, ih (coded.of_subset within)⟩
              rw [written_decodedWord]
              exact hdecoded
            · exact word true
            · exact word false

/-- A free text of code points is read as words, white space and decoded words of code points. -/
theorem isCodedToken_freeText {text : Text} (coded : IsCoded text) :
    ∀ piece ∈ freeText text, piece.IsCodedToken := by
  have joined : ∀ pieces : List Piece, (∀ piece ∈ pieces, piece.IsCodedToken) →
      ∀ piece ∈ Piece.joinWords pieces, piece.IsCodedToken := by
    intro pieces tokens
    fun_induction Piece.joinWords pieces with
    | case1 first gap last pieces _ ih =>
        simp only [List.forall_mem_cons] at tokens ih ⊢
        exact ⟨tokens.1, ⟨.joint gap, List.forall_mem_nil _⟩, ih tokens.2.2⟩
    | case2 first gap last pieces _ ih =>
        simp only [List.forall_mem_cons] at tokens ih ⊢
        exact ⟨tokens.1, tokens.2.1, ih tokens.2.2⟩
    | case3 piece pieces _ ih =>
        rw [List.forall_mem_cons] at tokens ⊢
        exact ⟨tokens.1, ih tokens.2⟩
    | case4 => exact List.forall_mem_nil _
  exact joined _ (isCodedToken_freeTextFrom coded)

/-- What it is written as are code points. -/
theorem isCoded_freeText {text : Text} (coded : IsCoded text) :
    IsCoded (Piece.writtenAll (freeText text)) := by
  intro sign member
  obtain ⟨piece, token, own⟩ := Piece.mem_writtenAll.mp member
  exact (isCodedToken_freeText coded piece token).2 sign own

end Mail

end Coursework
