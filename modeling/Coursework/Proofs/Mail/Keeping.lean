import Coursework.Proofs.Mail.Encoding
import Coursework.Proofs.Mail.FreeText

/-! # What writing a field keeps

Whatever a field holds, only a few moves write it: a text is put behind the line or on a line of its
own, and encoded words are put and taken back. What each of the moves keeps is kept by the whole.

* **`Mail.isInk_write`**: encoded words may stand in a line.
* **`Mail.Fold.Keeps`** is what encoding keeps, by **`Mail.Fold.Keeps.encode`**.
* **`Mail.Fold.KeepsPieces`** is what writing the pieces of a class keeps, by
  **`Mail.Fold.KeepsPieces.pieces`**. -/

namespace Coursework.Mail

open Text (IsCoded AreBytes)

/-! ## (1) Ink -/

theorem IsInk.isCoded {text : Text} (ink : IsInk text) : IsCoded text := fun sign member => by
  have := ink sign member
  rw [isInk, Bool.and_eq_true, decide_eq_true_eq] at this
  omega

theorem IsInk.isAscii {text : Text} (ink : IsInk text) : text.isAscii = true := by
  refine List.all_eq_true.mpr fun sign member => ?_
  have := ink sign member
  rw [isInk, Bool.and_eq_true] at this
  exact this.1

theorem isInk_writeByte :
    ∀ byte < 0x100, ∀ sign ∈ EncodedWord.writeByte byte, isInk sign = true := by decide +kernel

theorem isInk_sign : ∀ value < 64, isInk (Base64.standard.sign value) = true := by decide

theorem isInk_writeBytes {bytes : List Nat} (fits : AreBytes bytes) :
    IsInk (EncodedWord.writeBytes bytes) := by
  have letter : ∀ form, form = Text.ofString "q?" ∨ form = Text.ofString "b?" → IsInk form := by
    rintro form (rfl | rfl) sign member <;> revert sign <;> decide
  rw [EncodedWord.writeBytes]
  split
  · refine isInk_append.mpr ⟨letter _ (.inl rfl), fun sign member => ?_⟩
    obtain ⟨byte, inside, own⟩ := List.mem_flatMap.mp member
    exact isInk_writeByte byte (fits byte inside) sign own
  · refine isInk_append.mpr ⟨letter _ (.inr rfl), fun sign member => ?_⟩
    rcases Base64.mem_encode fits member with rfl | ⟨value, small, rfl⟩
    · decide
    · exact isInk_sign value small

/-- The bytes of code points are bytes. -/
theorem areBytes_of_bytes {charset : EncodedWord.Charset} {text : Text} {bytes : List Nat}
    (coded : IsCoded text) (encoded : charset.bytes text = .ok bytes) : AreBytes bytes := by
  cases charset with
  | utf8 =>
      rw [EncodedWord.Charset.bytes, Text.utf8] at encoded
      split at encoded <;> cases encoded
      intro byte member
      obtain ⟨sign, inside, own⟩ := List.mem_flatMap.mp member
      exact Text.utf8Bytes_lt (coded sign inside) byte own
  | unknown => exact EncodedWord.areBytes_asciiStray encoded

/-- An encoded word is ink. -/
theorem isInk_write {charset : EncodedWord.Charset} {text word : Text} (coded : IsCoded text)
    (written : EncodedWord.write charset text = .ok word) : IsInk word := by
  obtain ⟨bytes, encoded, done⟩ := Outcome.bind_eq_ok_iff.mp written
  cases done
  have name : IsInk charset.name := by
    cases charset <;> decide
  simp only [isInk_append]
  have frame : ∀ part ∈ [Text.ofString "=?", Text.ofString "?", Text.ofString "?="],
      ∀ sign ∈ part, isInk sign = true := by decide
  simp only [List.forall_mem_cons] at frame
  exact ⟨⟨⟨⟨frame.1, name⟩, frame.2.1⟩, isInk_writeBytes (areBytes_of_bytes coded encoded)⟩,
    frame.2.2.1⟩

/-- The encoded word of nothing is its frame. -/
theorem length_write_nil {charset : EncodedWord.Charset} {word : Text}
    (written : EncodedWord.write charset [] = .ok word) :
    word.length = EncodedWord.frameLength + charset.name.length := by
  cases charset <;> cases written <;> rfl

/-! ## (2) What a construct is written with -/

theorem subset_escaped (special : Nat → Bool) (text : Text) : text ⊆ escaped special text := by
  intro sign member
  refine List.mem_flatMap.mpr ⟨sign, member, ?_⟩
  split <;> simp

namespace Piece

theorem writtenAll_subset_writtenRemarks (parts : List Piece) :
    writtenAll parts ⊆ writtenRemarks parts := by
  induction parts with
  | nil => exact List.nil_subset _
  | cons part parts ih =>
      rw [writtenAll_cons, writtenRemarks]
      refine List.append_subset.mpr ⟨?_, List.Subset.trans ih (List.subset_append_right _ _)⟩
      refine List.Subset.trans ?_ (List.subset_append_left _ _)
      split
      · exact List.Subset.refl _
      · exact subset_escaped _ _

/-- A construct is written with its parts. -/
theorem writtenAll_subset_written (kind : Node) (parts : List Piece) :
    writtenAll parts ⊆ (node kind parts).written := by
  cases kind with
  | comment =>
      rw [written]
      refine List.Subset.trans (writtenAll_subset_writtenRemarks parts) ?_
      exact List.Subset.trans (List.subset_cons_self _ _) (List.subset_append_left _ _)
  | quotation =>
      rw [written, quote]
      refine List.Subset.trans (subset_escaped (· == Sign.doubleQuote) _) ?_
      exact List.Subset.trans (List.subset_cons_self _ _) (List.subset_append_left _ _)
  | _ =>
      rw [written]
      · exact List.Subset.refl _
      all_goals simp

end Piece

namespace Fold

/-! ## (3) Encoding -/

/-- A property of fields in the making that encoding keeps: what is put are single lines of ink,
and it does not matter what is known of encoded words beyond their place. -/
structure Keeps (inv : Fold → Prop) : Prop where
  /-- The line is ink. -/
  isInk {fold : Fold} : inv fold → IsInk fold.line
  /-- It does not matter whether the next leaf has to be encoded. -/
  flag {fold : Fold} (encoding : Bool) : inv fold → inv { fold with encoding }
  /-- The place of an encoded word may be forgotten. -/
  forget {fold : Fold} : inv fold → inv { fold with word := none }
  /-- The end of the line becomes that place if there is none. -/
  mark {fold : Fold} : inv fold → inv { fold with word := some (fold.word.getD fold.line.length) }
  /-- A text that fits, or white space, is put behind the line. -/
  put {fold : Fold} {text : Text} : inv fold → IsInk text →
    fold.fits text = true ∨ IsGaps text → inv (fold.put text)
  /-- A line is finished for the next encoded word. -/
  newLine {fold : Fold} {word : Option Nat} : inv fold → word = fold.word ∨ word = some 1 →
    inv { fold with finished := fold.line :: fold.finished, line := [Sign.space], word }
  /-- White space goes on a new line behind a line that is full. -/
  fill {fold : Fold} {gap : Nat} : inv fold → isGap gap = true → fold.line.length = lineLimit →
    inv (fold.wrapped.put [gap])
  /-- The line is cut where its last encoded word begins. -/
  cut {fold : Fold} {start : Nat} : inv fold → fold.word = some start →
    inv { fold with line := fold.line.take start }

variable {inv : Fold → Prop}

/-- The property is kept together with what is known of the depth, which encoding does not
change. -/
theorem Keeps.and_sealed (keeps : Keeps inv) (depth : Nat → Prop) :
    Keeps fun fold => inv fold ∧ depth fold.sealed where
  isInk holds := keeps.isInk holds.1
  flag encoding holds := ⟨keeps.flag encoding holds.1, holds.2⟩
  forget holds := ⟨keeps.forget holds.1, holds.2⟩
  mark holds := ⟨keeps.mark holds.1, holds.2⟩
  put holds ink room := ⟨keeps.put holds.1 ink room, holds.2⟩
  newLine holds word := ⟨keeps.newLine holds.1 word, holds.2⟩
  fill holds gap full := ⟨keeps.fill holds.1 gap full, holds.2⟩
  cut holds word := ⟨keeps.cut holds.1 word, holds.2⟩

/-- A word that is found has room. -/
theorem isInk_wordWithin {charset : EncodedWord.Charset} {text word : Text} {room count taken : Nat}
    (coded : IsCoded text) (roomy : EncodedWord.frameLength + charset.name.length < room)
    (found : wordWithin charset text room count = .ok (word, taken)) :
    IsInk word ∧ word.length ≤ room := by
  induction count with
  | zero =>
      rw [wordWithin] at found
      obtain ⟨empty, written, same⟩ := Outcome.map_eq_ok_iff.mp found
      obtain ⟨rfl, -⟩ := Prod.mk.inj same
      have written := Outcome.mapError_eq_ok_iff.mp written
      rw [length_write_nil written]
      exact ⟨isInk_write (List.forall_mem_nil _) written, roomy.le⟩
  | succ count ih =>
      rw [wordWithin] at found
      obtain ⟨longer, written, found⟩ := Outcome.bind_eq_ok_iff.mp found
      have written := Outcome.mapError_eq_ok_iff.mp written
      split at found
      · rename_i within
        cases found
        exact ⟨isInk_write (coded.of_subset (List.take_subset _ _)) written, within⟩
      · exact ih found

section Keeps

variable (keeps : Keeps inv)

include keeps

theorem Keeps.putWords {charset : EncodedWord.Charset} {fuel : Nat} {text : Text}
    {fold after : Fold} (holds : inv fold) (coded : IsCoded text)
    (done : Fold.putWords charset fuel text fold = .ok after) : inv after := by
  induction fuel generalizing text fold with
  | zero =>
      cases done
      exact holds
  | succ fuel ih =>
      cases text with
      | nil =>
          cases done
          exact holds
      | cons sign text =>
          rw [Fold.putWords] at done
          dsimp only at done
          split at done
          · exact ih (keeps.newLine holds (.inl rfl)) coded done
          · rename_i roomy
            obtain ⟨⟨word, count⟩, found, done⟩ := Outcome.bind_eq_ok_iff.mp done
            obtain ⟨ink, short⟩ := isInk_wordWithin coded (Nat.lt_of_not_le roomy) found
            have room : fold.fits word = true := decide_eq_true (by omega)
            have put := keeps.put holds ink (.inl room)
            dsimp only at done
            split at done
            · cases done
              exact put
            · exact ih (keeps.newLine put (.inr rfl))
                (coded.of_subset (List.drop_subset _ _)) done

theorem Keeps.encodeBefore {charset : EncodedWord.Charset} {text : Text} {fold after : Fold}
    (holds : inv fold) (coded : IsCoded text)
    (done : Fold.encodeBefore charset text fold = .ok after) : inv after := by
  rw [Fold.encodeBefore] at done
  split at done
  · cases done
  · dsimp only at done
    split at done
    · rename_i last _ gap
      obtain ⟨between, words, done⟩ := Outcome.bind_eq_ok_iff.mp done
      cases done
      have put := keeps.putWords (keeps.mark holds) (coded.of_subset (List.dropLast_subset _)) words
      have gaps : IsGaps [last] := List.forall_mem_singleton.mpr gap
      exact keeps.flag false (keeps.put put gaps.isInk (.inr gaps))
    · obtain ⟨between, words, done⟩ := Outcome.bind_eq_ok_iff.mp done
      cases done
      have put := keeps.putWords (keeps.mark holds) coded words
      have gaps : IsGaps [] := List.forall_mem_nil _
      exact keeps.flag false (keeps.put put gaps.isInk (.inr gaps))

theorem Keeps.encodeBehind {charset : EncodedWord.Charset} {text : Text} {fold after : Fold}
    (holds : inv fold) (coded : IsCoded text)
    (done : Fold.encodeBehind charset text fold = .ok after) : inv after := by
  rw [Fold.encodeBehind.eq_def] at done
  split at done
  · cases done
  · rename_i first rest
    split at done
    · rename_i gap
      have gaps : IsGaps [first] := List.forall_mem_singleton.mpr gap
      refine keeps.encodeBefore ?_ (coded.of_subset (List.subset_cons_self _ _)) done
      split
      · rename_i full
        exact keeps.fill holds gap full
      · exact keeps.put holds gaps.isInk (.inr gaps)
    · exact keeps.encodeBefore holds coded done

/-- Encoding keeps the property, and the depth. -/
theorem Keeps.encode {charset : EncodedWord.Charset} {text : Text} {fold after : Fold}
    (holds : inv fold) (coded : IsCoded text)
    (done : Fold.encode charset text fold = .ok after) :
    inv after ∧ after.sealed = fold.sealed := by
  have deep := keeps.and_sealed (· = fold.sealed)
  cases word : fold.word with
  | none =>
      rw [encode_of_none word] at done
      exact deep.encodeBehind ⟨holds, rfl⟩ coded done
  | some start =>
      rw [encode_of_some word] at done
      refine deep.encodeBehind ⟨keeps.cut holds word, rfl⟩ (isCoded_freeText ?_) done
      exact Text.isCoded_append.mpr
        ⟨((keeps.isInk holds).of_subset (List.drop_subset _ _)).isCoded, coded⟩

end Keeps

/-! ## (4) Pieces -/

/-- A property of fields in the making that is kept when the pieces of a class are written, which
are written in code points. -/
structure KeepsPieces (among : Piece → Prop) (inv : Fold → Prop) : Prop extends Keeps inv where
  /-- The parts of a construct of the class are of the class. -/
  parts {kind : Node} {parts : List Piece} : among (.node kind parts) →
    ∀ part ∈ parts, among part
  /-- The pieces are written in code points. -/
  coded {piece : Piece} : among piece → IsCoded piece.written
  /-- A piece that does not fit goes on a line of its own, where white space precedes it. It is
  short, or a leaf of a construct that must not be encoded. -/
  own {fold : Fold} {piece : Piece} : inv fold → among piece → IsInk piece.written →
    fold.fits piece.written = false →
    (piece.written.length + 1 ≤ lineLimit ∨
      fold.sealed ≠ 0 ∧ ∃ kind text, piece = .leaf kind text) →
    (stolen fold.line ≠ [] ∨ piece.beginsBlank? = some true) → inv (fold.wrapped.put piece.written)
  /-- Such a leaf is put behind the line where nothing else can be done. -/
  overrun {fold : Fold} {text : Text} : inv fold → fold.sealed ≠ 0 → IsInk text →
    inv (fold.put text)
  /-- A construct that must not be encoded, but has to, is put if its parts make one line. -/
  alone {fold inner : Fold} {kind : Node} {parts : List Piece} : inv fold → fold.sealed = 0 →
    among (.node kind parts) → (Piece.node kind parts).isFree = false →
    (inv {} → inv inner) → inner.lines = [inner.line] →
    inv ((if fold.fits inner.line then fold else fold.wrapped).put inner.line)
  /-- What holds before such a construct holds in it. -/
  deeper {fold : Fold} {kind : Node} {parts : List Piece} : inv fold →
    among (.node kind parts) → (Piece.node kind parts).isFree = false →
    inv { fold with sealed := fold.sealed + 1 }
  /-- What holds in it holds behind it. -/
  higher {fold inner : Fold} : inv fold → inv inner → inv { inner with sealed := fold.sealed }

/-- A text has its own line only where white space precedes it. -/
theorem ownLine?_eq_some {piece : Piece} {text : Text} {fold after : Fold}
    (own : ownLine? piece text fold = .ok (some after)) :
    after = fold.wrapped.put text ∧
      (stolen fold.line ≠ [] ∨ piece.beginsBlank? = some true) := by
  rw [ownLine?] at own
  split at own
  · split at own <;> cases own
    rename_i blank
    exact ⟨rfl, .inr blank⟩
  · rename_i gap
    cases own
    exact ⟨rfl, .inl fun none => gap (by rw [none]; rfl)⟩

theorem isInk_of_mustEncode {piece : Piece} {text : Text} {fold : Fold}
    (plain : mustEncode piece text fold = false) : IsInk text := by
  rw [mustEncode.eq_def, Bool.or_eq_false_iff, Bool.or_assoc, Bool.or_eq_false_iff,
    not_all_isInk, Bool.not_eq_false'] at plain
  exact all_isInk_iff.mp plain.1.2

/-- What need not be encoded, or must not be, is ink. -/
theorem isInk_of_not_encode {piece : Piece} {fold : Fold}
    (inside : fold.sealed ≠ 0 → IsInk piece.written)
    (plain : ¬(mustEncode piece piece.written fold && decide (fold.sealed = 0)) = true) :
    IsInk piece.written := by
  rw [Bool.and_eq_true, decide_eq_true_eq, not_and_or] at plain
  rcases plain with free | deep
  · exact isInk_of_mustEncode (Bool.eq_false_iff.mpr free)
  · exact inside deep

/-- A single line is the one in the making. -/
theorem eq_line_of_lines {fold : Fold} {line : Text} (single : fold.lines = [line]) :
    line = fold.line := by
  rw [lines, List.reverse_cons] at single
  have last := List.append_inj_right' (single.trans (List.nil_append [line]).symm) rfl
  exact (List.singleton_inj.mp last).symm

theorem isInk_parts {kind : Node} {parts : List Piece}
    (ink : IsInk (Piece.node kind parts).written) : IsInk (Piece.writtenAll parts) :=
  ink.of_subset (Piece.writtenAll_subset_written kind parts)

/-- What a field becomes when a construct is written. -/
inductive Constructed (fold : Fold) (kind : Node) (parts : List Piece) : Fold → Prop
  /-- The construct fits into the line. -/
  | whole (encoding : Bool) (ink : IsInk (Piece.node kind parts).written)
    (room : fold.fits (Piece.node kind parts).written = true) :
    Constructed fold kind parts ({ fold with encoding }.put (Piece.node kind parts).written)
  /-- It has a line of its own. -/
  | own (encoding : Bool) (ink : IsInk (Piece.node kind parts).written)
    (long : fold.fits (Piece.node kind parts).written = false)
    (short : (Piece.node kind parts).written.length + 1 ≤ lineLimit)
    (opens : stolen fold.line ≠ [] ∨ (Piece.node kind parts).beginsBlank? = some true) :
    Constructed fold kind parts
      { { fold with encoding }.wrapped.put (Piece.node kind parts).written with word := none }
  /-- Its parts are written, which may be encoded. -/
  | free {after : Fold} (encoding : Bool) (free : (Piece.node kind parts).isFree = true)
    (done : pieces { fold with encoding } parts = .ok after) : Constructed fold kind parts after
  /-- Its parts are written, which must not be encoded. -/
  | inside {inner : Fold} (encoding : Bool) (fixed : (Piece.node kind parts).isFree = false)
    (ink : IsInk (Piece.node kind parts).written)
    (done : pieces { fold with encoding, sealed := fold.sealed + 1 } parts = .ok inner) :
    Constructed fold kind parts { inner with sealed := inner.sealed - 1 }
  /-- Its parts make one line, though they have to be encoded. -/
  | alone {inner : Fold} (fixed : (Piece.node kind parts).isFree = false) (top : fold.sealed = 0)
    (must : mustEncode (.node kind parts) (Piece.node kind parts).written fold = true)
    (done : pieces {} parts = .ok inner) (single : inner.lines = [inner.line]) :
    Constructed fold kind parts
      ((if { fold with encoding := false, word := none }.fits inner.line then
        { fold with encoding := false, word := none }
      else { fold with encoding := false, word := none }.wrapped).put inner.line)
  /-- They make several lines, or one that holds a line end. -/
  | apart {inner after : Fold} (fixed : (Piece.node kind parts).isFree = false)
    (top : fold.sealed = 0)
    (must : mustEncode (.node kind parts) (Piece.node kind parts).written fold = true)
    (tried : pieces {} parts = .ok inner)
    (several : inner.lines = [inner.line] → ¬IsInk inner.line)
    (done : pieces { fold with encoding := false, word := none } parts = .ok after) :
    Constructed fold kind parts after

/-- Writing a construct does nothing else. -/
theorem constructed_of_piece {kind : Node} {parts : List Piece} {fold after : Fold}
    (inside : fold.sealed ≠ 0 → IsInk (Piece.node kind parts).written)
    (done : piece fold (.node kind parts) = .ok after) : Constructed fold kind parts after := by
  rw [piece] at done
  dsimp only at done
  split at done
  · rename_i encoded
    obtain ⟨must, top⟩ := Bool.and_eq_true_iff.mp encoded
    have top := of_decide_eq_true top
    split at done
    · rename_i free
      exact .free false free done
    · rename_i fixed
      have fixed := Bool.eq_false_iff.mpr fixed
      obtain ⟨inner, tried, done⟩ := Outcome.bind_eq_ok_iff.mp done
      split at done
      · rename_i line single
        obtain rfl := eq_line_of_lines single
        split at done
        · rename_i broken
          -- a line in which a line end stands is no ink
          refine .apart fixed top must tried (fun _ ink => ?_) done
          obtain ⟨sign, member, ends⟩ := List.any_eq_true.mp broken
          rw [beq_iff_eq] at ends
          subst ends
          exact absurd (ink _ member) (by decide)
        · cases done
          exact .alone fixed top must tried single
      · rename_i several
        exact .apart fixed top must tried (fun single _ => several _ single) done
  · rename_i plain
    have ink := isInk_of_not_encode inside plain
    -- both where it is too long for a line and where no line may be begun before it
    have parted : ∀ {after : Fold}, (if (Piece.node kind parts).isFree then
          pieces { fold with
            encoding := mustEncode (.node kind parts) (Piece.node kind parts).written fold } parts
        else do
          let inner ← pieces { fold with
            encoding := mustEncode (.node kind parts) (Piece.node kind parts).written fold
            sealed := fold.sealed + 1 } parts
          return { inner with sealed := inner.sealed - 1 }) = .ok after →
        Constructed fold kind parts after := by
      intro after done
      split at done
      · rename_i free
        exact .free _ free done
      · rename_i fixed
        obtain ⟨inner, within, done⟩ := Outcome.bind_eq_ok_iff.mp done
        cases done
        exact .inside _ (Bool.eq_false_iff.mpr fixed) ink within
    split at done
    · rename_i room
      cases done
      exact .whole _ ink room
    · rename_i long
      split at done
      · rename_i short
        obtain ⟨own, found, done⟩ := Outcome.bind_eq_ok_iff.mp done
        split at done
        · cases done
          obtain ⟨rfl, opens⟩ := ownLine?_eq_some found
          exact .own _ ink (Bool.eq_false_iff.mpr long) short opens
        · exact parted done
      · exact parted done

section Pieces

variable {among : Piece → Prop} (keeps : KeepsPieces among inv)

include keeps

/-- The property is kept by a leaf that need not be encoded. -/
theorem KeepsPieces.leaf {kind : Leaf} {text : Text} {fold after : Fold}
    (member : among (.leaf kind text)) (holds : inv fold)
    (ink : IsInk (Piece.leaf kind text).written)
    (done : Fold.leaf kind text fold = .ok after) : inv after ∧ after.sealed = fold.sealed := by
  rw [Fold.leaf] at done
  dsimp only at done
  split at done
  · rename_i room
    cases done
    exact ⟨keeps.put holds ink (.inl room), rfl⟩
  · rename_i long
    have long := Bool.eq_false_iff.mpr long
    -- where nothing may be encoded, a line may become too long
    have inside : fold.sealed ≠ 0 → ∀ {own : Option Fold},
        ownLine? (.leaf kind text) (Piece.leaf kind text).written fold = .ok own →
        inv (own.getD (fold.put (Piece.leaf kind text).written)) ∧
          (own.getD (fold.put (Piece.leaf kind text).written)).sealed = fold.sealed := by
      intro inside own found
      cases own with
      | none => exact ⟨keeps.overrun holds inside ink, rfl⟩
      | some after =>
          obtain ⟨rfl, opens⟩ := ownLine?_eq_some found
          exact ⟨keeps.own holds member ink long (.inr ⟨inside, kind, text, rfl⟩) opens, rfl⟩
    split at done
    · rename_i short
      obtain ⟨own, found, done⟩ := Outcome.bind_eq_ok_iff.mp done
      split at done
      · cases done
        obtain ⟨rfl, opens⟩ := ownLine?_eq_some found
        exact ⟨keeps.forget (keeps.own holds member ink long (.inl short) opens), rfl⟩
      · split at done
        · exact keeps.encode holds ink.isCoded done
        · rename_i deep
          obtain ⟨own, found, done⟩ := Outcome.bind_eq_ok_iff.mp done
          cases own <;> cases done <;> exact inside deep found
    · split at done
      · exact keeps.encode holds ink.isCoded done
      · rename_i deep
        obtain ⟨own, found, done⟩ := Outcome.bind_eq_ok_iff.mp done
        cases own <;> cases done <;> exact inside deep found

/-- It is kept by a construct if its parts keep it. -/
theorem KeepsPieces.node {kind : Node} {parts : List Piece}
    (writes : ∀ {fold after : Fold}, inv fold →
      (fold.sealed ≠ 0 → IsInk (Piece.writtenAll parts)) →
      Fold.pieces fold parts = .ok after → inv after ∧ after.sealed = fold.sealed)
    {fold after : Fold} (member : among (.node kind parts)) (holds : inv fold)
    (inside : fold.sealed ≠ 0 → IsInk (Piece.node kind parts).written)
    (done : Fold.piece fold (.node kind parts) = .ok after) :
    inv after ∧ after.sealed = fold.sealed := by
  replace done := constructed_of_piece inside done
  cases done with
  | whole encoding ink room =>
      exact ⟨keeps.put (keeps.flag encoding holds) ink (.inl room), rfl⟩
  | own encoding ink long short opens =>
      exact ⟨keeps.forget (keeps.own (keeps.flag encoding holds) member ink long (.inl short)
        opens), rfl⟩
  | free encoding _ done =>
      have kept := writes (keeps.flag encoding holds)
        (fun deep => isInk_parts (inside deep)) done
      exact kept
  | inside encoding fixed ink done =>
      have kept := writes (keeps.deeper (keeps.flag encoding holds) member fixed)
        (fun _ => isInk_parts ink) done
      obtain ⟨kept, deeper⟩ := kept
      dsimp only at deeper ⊢
      rw [deeper, Nat.add_sub_cancel]
      exact ⟨keeps.higher holds kept, rfl⟩
  | alone fixed top _ done single =>
      refine ⟨keeps.alone (keeps.forget (keeps.flag false holds)) top member fixed
        (fun start => (writes start (absurd rfl) done).1) single, ?_⟩
      split <;> rfl
  | apart _ top _ _ _ done =>
      have kept := writes (keeps.forget (keeps.flag false holds)) (absurd top) done
      exact kept

end Pieces

mutual
/-- The property is kept by a piece of the class, in which nothing has to be encoded where that is
not allowed, and the depth is the same behind it. -/
theorem KeepsPieces.piece {among : Piece → Prop} (keeps : KeepsPieces among inv) :
    (piece : Piece) → ∀ {fold after : Fold}, among piece → inv fold →
    (fold.sealed ≠ 0 → IsInk piece.written) → Fold.piece fold piece = .ok after →
    inv after ∧ after.sealed = fold.sealed
  | .leaf kind text, fold, after, member, holds, inside, done => by
      rw [Fold.piece] at done
      split at done
      · exact keeps.encode holds (keeps.coded member) done
      · rename_i plain
        have ink := isInk_of_not_encode inside plain
        have kept := keeps.leaf member (keeps.flag _ holds) ink done
        exact kept
  | .node kind parts, fold, after, member, holds, inside, done =>
      keeps.node (fun {_ _} => KeepsPieces.pieces keeps parts (keeps.parts member)) member holds
        inside done
/-- It is kept by pieces one after another. -/
theorem KeepsPieces.pieces {among : Piece → Prop} (keeps : KeepsPieces among inv) :
    (parts : List Piece) → (∀ part ∈ parts, among part) → ∀ {fold after : Fold}, inv fold →
    (fold.sealed ≠ 0 → IsInk (Piece.writtenAll parts)) →
    Fold.pieces fold parts = .ok after → inv after ∧ after.sealed = fold.sealed
  | [], _, fold, after, holds, _, done => by
      cases done
      exact ⟨holds, rfl⟩
  | first :: parts, members, fold, after, holds, inside, done => by
      rw [Piece.writtenAll_cons, isInk_append] at inside
      obtain ⟨hfirst, others⟩ := List.forall_mem_cons.mp members
      rw [Fold.pieces] at done
      obtain ⟨between, start, done⟩ := Outcome.bind_eq_ok_iff.mp done
      obtain ⟨kept, same⟩ :=
        KeepsPieces.piece keeps first hfirst holds (fun deep => (inside deep).1) start
      obtain ⟨all, again⟩ := KeepsPieces.pieces keeps parts others kept
        (fun deep => (inside (same ▸ deep)).2) done
      exact ⟨all, again.trans same⟩
end

end Fold

end Coursework.Mail
