import Coursework.Mail.Folding
import Coursework.Proofs.Mail.Unstructured

/-! # Encoding what has to be encoded

Text that has to be encoded goes into encoded words, and one that stands on the line already is read
again together with it. A line may have been broken since that word began; then what is left of it
is read as it stands. As long as no frame of an encoded word ends in the text of a field itself,
there is always something to encode, and it has an encoded word.

* **`Mail.Fold.Tidy`** is what is known of a field in the making.
* **`Mail.Fold.Tidy.put`**, **`Mail.Fold.Tidy.wrapped_put`** and **`Mail.Fold.Tidy.exists_encode`**
  show that it stays so. -/

namespace Coursework.Mail

open EncodedWord (Endless)

/-! ## (1) White space, ink and frames -/

/-- A text of white space. -/
def IsGaps (text : Text) : Prop := ∀ sign ∈ text, isGap sign = true

theorem lt_of_isGap {sign : Nat} (gap : isGap sign = true) :
    sign < 0x80 ∧ sign ≠ Sign.question := by
  simp only [isGap, Bool.or_eq_true, decide_eq_true_eq] at gap
  rcases gap with rfl | rfl <;> decide

theorem IsGaps.isScalar {text : Text} (gaps : IsGaps text) : Text.IsScalar text :=
  Text.isScalar_of_forall_lt fun sign member => (lt_of_isGap (gaps sign member)).1

/-- What has no question mark does not begin the end of a frame. -/
theorem endless_append {before text : Text} (absent : Sign.question ∉ before)
    (endless : Endless text) : Endless (before ++ text) := by
  induction before with
  | nil => exact endless
  | cons sign before ih =>
      rw [List.mem_cons, not_or] at absent
      intro ended
      rcases List.infix_cons_iff.mp ended with first | later
      · exact absent.1 (List.cons_prefix_cons.mp first).1
      · exact ih absent.2 later

theorem IsGaps.endless_append {gaps text : Text} (blank : IsGaps gaps)
    (endless : Endless text) : Endless (gaps ++ text) :=
  Mail.endless_append (fun member => (lt_of_isGap (blank _ member)).2 rfl) endless

/-- The ASCII signs that end no line. -/
def isInk (sign : Nat) : Bool := sign < 0x80 && !Fold.isLineEnd sign

/-- A text that may stand in a line as it is. -/
def IsInk (text : Text) : Prop := ∀ sign ∈ text, isInk sign = true

instance (text : Text) : Decidable (IsInk text) :=
  inferInstanceAs (Decidable (∀ sign ∈ text, isInk sign = true))

theorem all_isInk_iff {text : Text} : text.all isInk = true ↔ IsInk text := List.all_eq_true

theorem isInk_append {first second : Text} : IsInk (first ++ second) ↔ IsInk first ∧ IsInk second :=
  List.forall_mem_append

theorem IsInk.of_subset {part text : Text} (ink : IsInk text) (within : part ⊆ text) :
    IsInk part := fun sign member => ink sign (within member)

theorem isInk_of_isGap {sign : Nat} (gap : isGap sign = true) : isInk sign = true := by
  simp only [isGap, Bool.or_eq_true, decide_eq_true_eq] at gap
  rcases gap with rfl | rfl <;> decide

theorem IsGaps.isInk {text : Text} (gaps : IsGaps text) : IsInk text :=
  fun sign member => isInk_of_isGap (gaps sign member)

/-- Ink is what is ASCII and has no line end. -/
theorem not_all_isInk (text : Text) :
    (!text.isAscii || text.any Fold.isLineEnd) = !text.all isInk := by
  induction text with
  | nil => rfl
  | cons sign text ih =>
      rw [Text.isAscii] at ih ⊢
      rw [List.all_cons, List.any_cons, List.all_cons, isInk, Bool.not_and, Bool.not_and, ← ih]
      grind

theorem isGaps_stolen (line : Text) : IsGaps (Fold.stolen line) := by
  rw [Fold.stolen]
  split
  · split
    · rename_i gap
      exact List.forall_mem_singleton.mpr gap
    · exact List.forall_mem_nil _
  · exact List.forall_mem_nil _

theorem length_stolen_le (line : Text) : (Fold.stolen line).length ≤ 1 := by
  rw [Fold.stolen]
  split
  · split <;> simp
  · simp

theorem remnant_of_suffix {text word left : Text} {gap : Nat} (scalar : Text.IsScalar text)
    (written : EncodedWord.write .utf8 text = .ok word) (blank : isGap gap = true)
    (later : left <:+ gap :: word) : Remnant left :=
  ⟨text, word, gap, scalar, written, blank, later⟩

theorem remnant_nil : Remnant [] := by
  obtain ⟨_, _, -, written⟩ := EncodedWord.exists_write Text.hasSurrogate_nil
  exact ⟨[], _, Sign.space, List.forall_mem_nil _, written, by decide, List.nil_suffix⟩

/-- A text that is more than a sign of white space. -/
def IsSolid (text : Text) : Prop := text ≠ [] ∧ ∀ sign, text = [sign] → isGap sign = false

theorem IsSolid.append {text : Text} (solid : IsSolid text) (before : Text) :
    IsSolid (before ++ text) := by
  refine ⟨List.append_ne_nil_of_right_ne_nil before solid.1, fun sign whole => ?_⟩
  rcases List.append_eq_singleton_iff.mp whole with ⟨-, h⟩ | ⟨-, h⟩
  · exact solid.2 sign h
  · exact absurd h solid.1

theorem isSolid_of_not_isGap {text : Text} {sign : Nat} (member : sign ∈ text)
    (other : isGap sign = false) : IsSolid text := by
  refine ⟨List.ne_nil_of_mem member, fun single whole => ?_⟩
  rw [whole, List.mem_singleton] at member
  exact member ▸ other

namespace Fold

/-! ## (2) Encoded words -/

/-- The state in which encoded words are put: behind the place where the last one begins there is
at most one sign of white space. -/
def Ready (fold : Fold) : Prop :=
  ∃ start gap, fold.word = some start ∧ isGap gap = true ∧ fold.line.drop start <:+ [gap]

/-- The state behind them. -/
def Encoded (fold : Fold) : Prop :=
  ∃ start left gaps, fold.word = some start ∧ fold.line.drop start = left ++ gaps ∧
    Remnant left ∧ IsGaps gaps

theorem Ready.encoded {fold : Fold} (ready : Ready fold) : Encoded fold := by
  obtain ⟨start, gap, word, blank, left⟩ := ready
  exact ⟨start, [], _, word, rfl, remnant_nil, fun sign member => by
    rw [List.mem_singleton.mp (left.subset member)]
    exact blank⟩

/-- A new line is ready. -/
theorem ready_newLine {fold : Fold} {start : Nat} (word : fold.word = some start)
    (line : fold.line = [Sign.space]) : Ready fold :=
  ⟨start, Sign.space, word, by decide, line ▸ List.drop_suffix start _⟩

/-- An encoded word on a line that is ready. -/
theorem Ready.put_word {fold : Fold} (ready : Ready fold) {text word : Text}
    (scalar : Text.IsScalar text) (written : EncodedWord.write .utf8 text = .ok word) :
    Encoded (fold.put word) := by
  obtain ⟨start, gap, place, blank, left⟩ := ready
  refine ⟨start, _, [], place, (List.append_nil _).symm, ?_, List.forall_mem_nil _⟩
  refine remnant_of_suffix scalar written blank ?_
  rw [put, List.drop_append]
  rcases List.suffix_cons_iff.mp left with whole | none
  · have within : start - fold.line.length = 0 := by
      have := congrArg List.length whole
      rw [List.length_drop] at this
      simp only [List.length_singleton] at this
      omega
    rw [whole, within]
    exact List.suffix_refl _
  · rw [List.suffix_nil.mp none]
    exact (List.drop_suffix _ _).trans (List.suffix_cons gap word)

theorem exists_wordWithin {text : Text} (scalar : Text.IsScalar text) (room count : Nat) :
    ∃ chunk word taken, Text.IsScalar chunk ∧ EncodedWord.write .utf8 chunk = .ok word ∧
      wordWithin .utf8 text room count = .ok (word, taken) := by
  induction count with
  | zero =>
      obtain ⟨_, _, -, written⟩ := EncodedWord.exists_write Text.hasSurrogate_nil
      exact ⟨[], _, 0, List.forall_mem_nil _, written, by rw [wordWithin, written]; rfl⟩
  | succ count ih =>
      have part := scalar.of_subset (List.take_subset (count + 1) text)
      obtain ⟨form, content, -, written⟩ := EncodedWord.exists_write part.hasSurrogate
      rw [wordWithin, written]
      by_cases fits : (EncodedWord.framed form content).length ≤ room
      · exact ⟨_, _, _, part, written, if_pos fits⟩
      · obtain ⟨chunk, word, taken, hchunk, hword, found⟩ := ih
        exact ⟨chunk, word, taken, hchunk, hword, (if_neg fits).trans found⟩

/-- A text is put in encoded words. -/
theorem exists_putWords {text : Text} {fold : Fold} (scalar : Text.IsScalar text)
    (ready : Ready fold) (fuel : Nat) :
    ∃ after, putWords .utf8 fuel text fold = .ok after ∧ Encoded after ∧
      after.sealed = fold.sealed := by
  induction fuel generalizing text fold with
  | zero => exact ⟨fold, rfl, ready.encoded, rfl⟩
  | succ fuel ih =>
      cases text with
      | nil => exact ⟨fold, rfl, ready.encoded, rfl⟩
      | cons sign text =>
          rw [putWords]
          dsimp only
          split
          · obtain ⟨start, gap, word, -⟩ := ready
            exact ih scalar (ready_newLine word rfl)
          · obtain ⟨chunk, word, taken, hchunk, written, found⟩ := exists_wordWithin scalar
              (lineLimit - fold.line.length) (lineLimit - fold.line.length -
                (EncodedWord.frameLength + EncodedWord.Charset.utf8.name.length))
            rw [found]
            simp only [bind, Except.bind, pure, Except.pure]
            split
            · exact ⟨_, rfl, ready.put_word hchunk written, rfl⟩
            · exact ih (scalar.of_subset (List.drop_subset taken _)) (ready_newLine rfl rfl)

theorem Encoded.put_gaps {fold : Fold} (encoded : Encoded fold) {gaps : Text}
    (blank : IsGaps gaps) : Encoded (fold.put gaps) := by
  obtain ⟨start, left, others, word, line, remnant, before⟩ := encoded
  refine ⟨start, left, others ++ gaps.drop (start - fold.line.length), word, ?_, remnant, ?_⟩
  · rw [put, List.drop_append, line, List.append_assoc]
  · exact List.forall_mem_append.mpr
      ⟨before, fun sign member => blank sign (List.mem_of_mem_drop member)⟩

/-- The state with a text in encoded words and the white space at its end behind them. -/
def encodeBefore (charset : EncodedWord.Charset) (text : Text) (fold : Fold) : Outcome Fold :=
  match text.getLast? with
  | none => .error (.header .textEnds)
  | some last => do
    let (text, gap) := if isGap last then (text.dropLast, [last]) else (text, [])
    let fold := { fold with word := some (fold.word.getD fold.line.length) }
    let fold ← putWords charset (2 * text.length + 2) text fold
    return { fold.put gap with encoding := false }

/-- The state with the white space at the start of a text before all that. -/
def encodeBehind (charset : EncodedWord.Charset) (text : Text) (fold : Fold) : Outcome Fold :=
  match text with
  | [] => .error (.header .textEnds)
  | first :: rest =>
    if isGap first then
      encodeBefore charset rest
        ((if fold.line.length = lineLimit then fold.wrapped else fold).put [first])
    else encodeBefore charset (first :: rest) fold

/-- What `encode` does once it is known which text is to be put behind which line. -/
theorem encodeBehind_cons (charset : EncodedWord.Charset) (first : Nat) (rest : Text)
    (fold : Fold) :
    (let (text, fold) :=
      if isGap first then
        (rest, (if fold.line.length = lineLimit then fold.wrapped else fold).put [first])
      else (first :: rest, fold)
    encodeBefore charset text fold) = encodeBehind charset (first :: rest) fold := by
  rw [encodeBehind]
  cases isGap first <;> rfl

/-- A text goes behind a line without encoded words. -/
theorem encode_of_none {fold : Fold} (word : fold.word = none) (charset : EncodedWord.Charset)
    (text : Text) : encode charset text fold = encodeBehind charset text fold := by
  rw [encode, word]
  cases text with
  | nil => rfl
  | cons first rest => exact encodeBehind_cons charset first rest fold

/-- An encoded word of the line is taken away and read again together with what follows it. -/
theorem encode_of_some {fold : Fold} {start : Nat} (word : fold.word = some start)
    (charset : EncodedWord.Charset) (text : Text) :
    encode charset text fold =
      encodeBehind charset (Piece.writtenAll (freeText (fold.line.drop start ++ text)))
        { fold with line := fold.line.take start } := by
  rw [encode, word]
  dsimp only
  split
  · rename_i empty
    rw [empty, encodeBehind]
  · rename_i first rest whole
    rw [whole]
    exact encodeBehind_cons charset first rest _

/-- A text that is not empty is put in encoded words. -/
theorem exists_encodeBefore {text : Text} {fold : Fold} (scalar : Text.IsScalar text)
    (solid : text ≠ [])
    (ready : Ready { fold with word := some (fold.word.getD fold.line.length) }) :
    ∃ after, encodeBefore .utf8 text fold = .ok after ∧ Encoded after ∧ after.encoding = false ∧
      after.sealed = fold.sealed := by
  rw [encodeBefore, List.getLast?_eq_some_getLast solid]
  dsimp only
  split
  · rename_i blank
    obtain ⟨after, put, encoded, same⟩ := exists_putWords
      (scalar.of_subset (List.dropLast_subset text)) ready (2 * text.dropLast.length + 2)
    rw [put]
    exact ⟨_, rfl, encoded.put_gaps (List.forall_mem_singleton.mpr blank), rfl, same⟩
  · obtain ⟨after, put, encoded, same⟩ := exists_putWords scalar ready (2 * text.length + 2)
    rw [put]
    exact ⟨_, rfl, encoded.put_gaps (List.forall_mem_nil _), rfl, same⟩

/-- A line is ready if it ends before the place where its last encoded word began, but for a sign of
white space; one without encoded words is ready for the first. -/
theorem ready_of_word {fold : Fold} (short : ∀ start, fold.word = some start →
    ∃ gap, isGap gap = true ∧ fold.line.drop start <:+ [gap]) :
    Ready { fold with word := some (fold.word.getD fold.line.length) } := by
  cases word : fold.word with
  | none =>
      refine ⟨fold.line.length, Sign.space, rfl, by decide, ?_⟩
      rw [List.drop_length]
      exact List.nil_suffix
  | some start =>
      obtain ⟨gap, blank, left⟩ := short start word
      exact ⟨start, gap, rfl, blank, left⟩

/-- A text that is more than a sign of white space is put in encoded words. -/
theorem exists_encodeBehind {text : Text} {fold : Fold} (scalar : Text.IsScalar text)
    (solid : IsSolid text)
    (short : ∀ start, fold.word = some start → fold.line.length ≤ start) :
    ∃ after, encodeBehind .utf8 text fold = .ok after ∧ Encoded after ∧ after.encoding = false ∧
      after.sealed = fold.sealed := by
  cases text with
  | nil => exact absurd rfl solid.1
  | cons first rest =>
      rw [encodeBehind]
      split
      · rename_i gap
        have more : rest ≠ [] := by
          rintro rfl
          rw [solid.2 first rfl] at gap
          cases gap
        obtain ⟨begun, hbegun⟩ : ∃ begun, begun =
            (if fold.line.length = lineLimit then fold.wrapped else fold).put [first] := ⟨_, rfl⟩
        have ready : Ready { begun with word := some (begun.word.getD begun.line.length) } := by
          refine ready_of_word fun start word => ?_
          rw [hbegun, put, apply_ite Fold.word, wrapped, ite_self] at word
          have before := short start word
          refine ⟨first, gap, ?_⟩
          rw [hbegun, put, List.drop_append, apply_ite Fold.line, wrapped, List.drop_of_length_le,
            List.nil_append]
          · exact List.drop_suffix _ [first]
          · -- a line that is full leaves one sign of white space at most to the new one
            have := length_stolen_le fold.line
            split
            · simp only [lineLimit] at *
              omega
            · exact before
        obtain ⟨after, encoded, h, done, same⟩ := exists_encodeBefore
          (scalar.of_subset (List.subset_cons_self first rest)) more ready
        refine ⟨after, hbegun ▸ encoded, h, done, same.trans ?_⟩
        rw [hbegun, put, apply_ite Fold.sealed]
        exact ite_self _
      · refine exists_encodeBefore scalar solid.1 (ready_of_word fun start word => ?_)
        refine ⟨Sign.space, by decide, ?_⟩
        rw [List.drop_of_length_le (short start word)]
        exact List.nil_suffix

/-! ## (3) The invariant -/

/-- No leaf has to be encoded for the sake of another, and in what stands behind the beginning of
the last encoded word, and what is still to come, no frame ends but that of the word. -/
structure Tidy (fold : Fold) (rest : Text) : Prop where
  /-- No leaf was left that had to be encoded. -/
  encoding : fold.encoding = false
  /-- What is still to come ends no frame. -/
  endless : Endless rest
  /-- Nor does what follows an encoded word, or what is left of one. -/
  behind : ∀ start, fold.word = some start → ∃ left plain, fold.line.drop start = left ++ plain ∧
    Remnant left ∧ Text.IsScalar plain ∧ Endless (plain ++ rest)

theorem Encoded.tidy {fold : Fold} {rest : Text} (encoded : Encoded fold)
    (encoding : fold.encoding = false) (endless : Endless rest) : Tidy fold rest where
  encoding := encoding
  endless := endless
  behind start word := by
    obtain ⟨place, left, gaps, h, line, remnant, blank⟩ := encoded
    obtain rfl := Option.some.inj (h.symm.trans word)
    exact ⟨left, gaps, line, remnant, blank.isScalar, blank.endless_append endless⟩

/-- Without encoded words on the line there is nothing to know of it. -/
theorem tidy_of_word {fold : Fold} {rest : Text} (encoding : fold.encoding = false)
    (endless : Endless rest) (none : fold.word = none) : Tidy fold rest where
  encoding := encoding
  endless := endless
  behind start word := by
    rw [none] at word
    cases word

section Step

variable {fold : Fold} {text rest : Text} (tidy : Tidy fold (text ++ rest))
  (scalar : Text.IsScalar text)

include tidy

theorem Tidy.endless_rest : Endless rest :=
  tidy.endless.of_isInfix (List.suffix_append text rest).isInfix

include scalar

/-- A text may be put on the line. -/
theorem Tidy.put : Tidy (fold.put text) rest where
  encoding := tidy.encoding
  endless := tidy.endless_rest
  behind start word := by
    obtain ⟨left, plain, line, remnant, hplain, endless⟩ := tidy.behind start word
    refine ⟨left, plain ++ text.drop (start - fold.line.length), ?_, remnant,
      Text.isScalar_append.mpr ⟨hplain, scalar.of_subset (List.drop_subset _ text)⟩, ?_⟩
    · rw [Fold.put, List.drop_append, line, List.append_assoc]
    · by_cases within : start ≤ fold.line.length
      · rw [Nat.sub_eq_zero_of_le within, List.drop_zero, List.append_assoc]
        exact endless
      · -- the line ends before the place, so nothing stands behind it yet
        rw [List.drop_of_length_le (by omega)] at line
        obtain ⟨-, rfl⟩ := List.append_eq_nil_iff.mp line.symm
        refine tidy.endless.of_isInfix (List.IsSuffix.isInfix ?_)
        obtain ⟨before, h⟩ := List.drop_suffix (start - fold.line.length) text
        exact ⟨before, by rw [List.nil_append, ← List.append_assoc, h]⟩

/-- It may be put on a new line. -/
theorem Tidy.wrapped_put : Tidy (fold.wrapped.put text) rest where
  encoding := tidy.encoding
  endless := tidy.endless_rest
  behind start _ := by
    have line : (fold.wrapped.put text).line = stolen fold.line ++ text := rfl
    have gaps := isGaps_stolen fold.line
    obtain ⟨before, h⟩ := List.drop_suffix start (stolen fold.line ++ text)
    refine ⟨[], _, by rw [List.nil_append, line], remnant_nil, ?_, ?_⟩
    · exact (Text.isScalar_append.mpr ⟨gaps.isScalar, scalar⟩).of_subset (List.drop_subset _ _)
    · refine (gaps.endless_append tidy.endless).of_isInfix (List.IsSuffix.isInfix ?_)
      exact ⟨before, by rw [← List.append_assoc, h, List.append_assoc]⟩

/-- It may be encoded, if it is more than a sign of white space. -/
theorem Tidy.exists_encode (solid : IsSolid text) :
    ∃ after, encode (.ofText text) text fold = .ok after ∧ Tidy after rest ∧
      after.sealed = fold.sealed := by
  have charset : EncodedWord.Charset.ofText text = .utf8 := by
    rw [EncodedWord.Charset.ofText, scalar.hasSurrogate]
    rfl
  rw [charset]
  cases word : fold.word with
  | none =>
      rw [encode_of_none word]
      have short : ∀ start, fold.word = some start → fold.line.length ≤ start := by simp [word]
      obtain ⟨after, h, encoded, done, same⟩ := exists_encodeBehind scalar solid short
      exact ⟨after, h, encoded.tidy done tidy.endless_rest, same⟩
  | some start =>
      obtain ⟨left, plain, line, remnant, hplain, endless⟩ := tidy.behind start word
      have ended : Endless (plain ++ text) :=
        endless.of_isInfix ⟨[], rest, by simp⟩
      obtain ⟨read, hread, whole⟩ := exists_writtenAll_freeText remnant ended
      have all : Text.IsScalar (read ++ (plain ++ text)) :=
        Text.isScalar_append.mpr ⟨hread, Text.isScalar_append.mpr ⟨hplain, scalar⟩⟩
      have more : IsSolid (read ++ (plain ++ text)) := by
        rw [← List.append_assoc]
        exact solid.append _
      have short : ∀ place, fold.word = some place → (fold.line.take start).length ≤ place := by
        intro place same
        obtain rfl := Option.some.inj (word.symm.trans same)
        exact List.length_take_le start fold.line
      obtain ⟨after, h, encoded, done, same⟩ := @exists_encodeBehind _
        { fold with line := fold.line.take start } all more short
      rw [encode_of_some word, line, List.append_assoc, whole]
      exact ⟨after, h, encoded.tidy done tidy.endless_rest, same⟩

end Step

end Fold

end Coursework.Mail
