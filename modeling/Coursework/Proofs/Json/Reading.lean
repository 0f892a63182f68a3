import Coursework.Json.Reader
import Coursework.Proofs.Json.Compact
import Coursework.Proofs.Text.Lines
import Mathlib.Data.List.Infix
import Mathlib.Data.List.TakeDrop
import Mathlib.Data.List.TakeWhile
import Mathlib.Tactic.IntervalCases

/-! # What is read

Every reader takes a part of the text from its start and leaves the rest. So the digits of a number
that has too many stand in the text one after another, and a surrogate in a value that is read
either stands in the text itself or is spelled by an escape there.

* **`Json.Within`** is what there is to say of a reader, **`Json.within_readValue`** the statement
  for values.
* **`Json.hasLongRun_of_read`**: a text whose reading stops at a numeral has so many digits in a
  row, and **`Json.read_of_digits`**: a text of nothing else is not read.
* **`Json.isPlain_of_read`**: a text that spells no surrogate is read as a value without any. -/

namespace Coursework.Json

/-! ## (1) Digits in a row -/

/-- A text has more digits in a row than a whole number may have. -/
def HasLongRun (text : Text) : Prop :=
  ∃ run, run <:+: text ∧ (∀ sign ∈ run, Sign.isDigit sign = true) ∧ numeralLimit < run.length

theorem HasLongRun.of_isInfix {text piece : Text} (long : HasLongRun piece)
    (within : piece <:+: text) : HasLongRun text := by
  obtain ⟨run, inside, digits, many⟩ := long
  exact ⟨run, inside.trans within, digits, many⟩

/-! ## (2) Spelled surrogates -/

/-- Whether a text begins with a surrogate or with an escape that spells one. -/
def beginsSurrogate : Text → Bool
  | [] => false
  | Sign.backslash :: 117 :: a :: b :: c :: d :: _ => (hexValue? a b c d).any Sign.isSurrogate
  | sign :: _ => Sign.isSurrogate sign

/-- Whether a surrogate, or an escape that spells one, stands anywhere in a text. -/
def spellsSurrogate (text : Text) : Bool := text.tails.any beginsSurrogate

theorem beginsSurrogate_append {text : Text} (begins : beginsSurrogate text = true) (rest : Text) :
    beginsSurrogate (text ++ rest) = true := by
  fun_cases beginsSurrogate text with
  | case1 => cases begins
  | case2 a b c d _ => exact begins
  | case3 sign others other =>
      rw [beginsSurrogate.eq_3 _ _ other] at begins
      rw [List.cons_append, beginsSurrogate.eq_3]
      · exact begins
      · rintro _ _ _ _ _ rfl
        cases begins

/-- A piece of a text that spells no surrogate spells none either. -/
theorem spellsSurrogate_of_isInfix {text piece : Text} (plain : spellsSurrogate text = false)
    (within : piece <:+: text) : spellsSurrogate piece = false := by
  obtain ⟨before, behind, rfl⟩ := within
  rw [spellsSurrogate, List.any_eq_false] at plain ⊢
  intro rest member begins
  have later : rest ++ behind <:+ before ++ piece ++ behind := by
    obtain ⟨start, rfl⟩ := (List.mem_tails _ _).mp member
    exact ⟨before ++ start, by simp⟩
  exact plain _ ((List.mem_tails _ _).mpr later) (beginsSurrogate_append begins behind)

theorem beginsSurrogate_of_spells {text : Text} (plain : spellsSurrogate text = false) :
    beginsSurrogate text = false :=
  Bool.eq_false_iff.mpr (List.any_eq_false.mp plain _ ((List.mem_tails _ _).mpr List.suffix_rfl))

theorem isSurrogate_of_cons {sign : Nat} {rest : Text}
    (plain : spellsSurrogate (sign :: rest) = false) : Sign.isSurrogate sign = false := by
  have begins := beginsSurrogate_of_spells plain
  by_cases backslash : sign = Sign.backslash
  · rw [backslash]
    rfl
  · rwa [beginsSurrogate.eq_3 _ _ fun _ _ _ _ _ h => absurd h backslash] at begins

/-! ## (3) Readers -/

/-- What a reader finds at the start of a text: what follows is an end of the text, the digits of a
numeral that is too long stand in the text, and a value from a text that spells no surrogate is as
it should be. -/
structure Within {α : Type} (Fine : α → Prop) (text : Text) (found : Except Fault (α × Text)) :
    Prop where
  /-- What follows is an end of the text. -/
  rest : ∀ value rest, found = .ok (value, rest) → rest <:+ text
  /-- The digits of a numeral that is too long stand in the text. -/
  long : ∀ digits, found = .error (.longNumeral digits) → HasLongRun text
  /-- Without surrogates in the text, the value is as it should be. -/
  fine : spellsSurrogate text = false → ∀ value rest, found = .ok (value, rest) → Fine value

section Within

variable {α β : Type} {Fine : α → Prop} {text rest : Text} {found : Except Fault (α × Text)}

theorem within_ok {value : α} (later : rest <:+ text)
    (fine : spellsSurrogate text = false → Fine value) :
    Within Fine text (.ok (value, rest)) where
  rest _ _ h := by
    cases h
    exact later
  long _ h := by cases h
  fine plain _ _ h := by
    cases h
    exact fine plain

theorem within_malformed (cause : Cause) (remaining : Nat) :
    Within Fine text (.error (.malformed cause remaining)) where
  rest _ _ h := by cases h
  long _ h := by cases h
  fine _ _ _ h := by cases h

/-- What is found in the rest of a text is found in the text. -/
theorem Within.of_suffix (within : Within Fine rest found) (later : rest <:+ text) :
    Within Fine text found where
  rest value behind h := (within.rest value behind h).trans later
  long digits h := (within.long digits h).of_isInfix later.isInfix
  fine plain := within.fine (spellsSurrogate_of_isInfix plain later.isInfix)

/-- A fault of another reader is as good. -/
theorem Within.fault {Other : β → Prop} {fault : Fault}
    (within : Within Fine text (.error fault)) : Within Other text (.error fault) where
  rest _ _ h := by cases h
  long digits h := within.long digits (by cases h; rfl)
  fine _ _ _ h := by cases h

theorem Within.map {Other : β → Prop} (within : Within Fine text found) {change : α → β}
    (keeps : spellsSurrogate text = false → ∀ value, Fine value → Other (change value)) :
    Within Other text (found.map fun (value, rest) => (change value, rest)) := by
  cases found with
  | error fault => exact within.fault
  | ok found =>
      exact within_ok (within.rest _ _ rfl) fun plain => keeps plain _ (within.fine plain _ _ rfl)

theorem Within.imp {Other : α → Prop} (within : Within Fine text found)
    (weaker : spellsSurrogate text = false → ∀ value, Fine value → Other value) :
    Within Other text found where
  rest := within.rest
  long := within.long
  fine plain value rest h := weaker plain value (within.fine plain value rest h)

theorem skip_suffix (text : Text) : skip text <:+ text := List.dropWhile_suffix _

/-- So is what stands behind the next sign that is no separator. -/
theorem suffix_of_skip {text behind : Text} {sign : Nat} (next : skip text = sign :: behind) :
    behind <:+ text :=
  (List.suffix_cons sign behind).trans (next ▸ skip_suffix text)

end Within

/-! ## (4) Quoted texts -/

/-- An escape that is not one of a code point stands for a sign below U+D800. -/
theorem isSurrogate_of_unescape {letter sign : Nat} (meant : unescape? letter = some sign) :
    Sign.isSurrogate sign = false := by
  rw [unescape?] at meant
  split at meant
  · rename_i itself
    cases meant
    simp only [Bool.or_eq_true, decide_eq_true_eq] at itself
    rcases itself with (rfl | rfl) | rfl <;> decide
  · split_ifs at meant <;> cases meant <;> decide

/-- What an escape stands for is followed by what follows the escape, of which there are two if
they spell a pair of surrogates. -/
theorem within_readEscape (opening text : Text) :
    Within (fun sign => spellsSurrogate (Sign.backslash :: text) = false →
      Sign.isSurrogate sign = false) text (readEscape opening text) := by
  -- the first of two escapes spells a surrogate
  have plain {a b c d high : Nat} {rest : Text}
      (spelled : hexValue? a b c d = some high)
      (plain : spellsSurrogate (Sign.backslash :: 117 :: a :: b :: c :: d :: rest) = false) :
      Sign.isSurrogate high = false := by
    have begins := beginsSurrogate_of_spells plain
    rw [beginsSurrogate, spelled] at begins
    exact begins
  fun_cases readEscape opening text with
  | case1 | case2 | case3 | case4 | case8 | case10 => exact within_malformed _ _
  | case5 =>
      split
      · rename_i spelled _ _ _ _ _ pair _ _ _ _
        refine within_ok ⟨[_, _, _, _, _, _, _, _, _, _, _], rfl⟩ fun _ whole => ?_
        have first := plain spelled whole
        simp only [Bool.and_eq_true, Sign.isHighSurrogate, decide_eq_true_eq] at pair
        simp only [Sign.isSurrogate, Bool.and_eq_false_iff, decide_eq_false_iff_not] at first
        omega
      · exact within_ok ⟨[_, _, _, _, _], rfl⟩ fun _ => plain ‹_›
  | case6 | case7 => exact within_ok ⟨[_, _, _, _, _], rfl⟩ fun _ => plain ‹_›
  | case9 => exact within_ok (List.suffix_cons _ _) fun _ _ => isSurrogate_of_unescape ‹_›

theorem within_readText (opening : Text) (steps : Nat) (text : Text) :
    Within (fun value => value.hasSurrogate = false) text (readText opening steps text) := by
  induction steps generalizing text with
  | zero => exact within_malformed _ _
  | succ steps ih =>
      cases text with
      | nil => exact within_malformed _ _
      | cons sign rest =>
          have later : rest <:+ sign :: rest := List.suffix_cons sign rest
          rw [readText]
          split
          · exact within_ok later fun _ => rfl
          · split
            · rename_i backslash
              subst backslash
              have escape := within_readEscape opening rest
              split
              · rename_i fault found
                exact ((found ▸ escape).of_suffix later).fault
              · rename_i meant behind found
                -- a sign that is meant by an escape is plain unless the escape spells a surrogate
                have own := (ih behind).of_suffix ((escape.rest _ _ found).trans later)
                refine own.map fun plain value fine => ?_
                have unspelled := spellsSurrogate_of_isInfix plain later.isInfix
                rw [Text.hasSurrogate_cons, escape.fine unspelled _ _ found plain, fine]
                rfl
            · split
              · exact within_malformed _ _
              · refine ((ih rest).of_suffix later).map fun plain value fine => ?_
                rw [Text.hasSurrogate_cons, isSurrogate_of_cons plain, fine]
                rfl

/-! ## (5) Numbers -/

theorem digits_eq (text : Text) :
    digits text = (text.takeWhile Sign.isDigit, text.dropWhile Sign.isDigit) :=
  List.span_eq_takeWhile_dropWhile Sign.isDigit text

/-- The digits of a whole number stand at the start of the text. -/
theorem readWhole_append (text : Text) :
    (readWhole text).1 ++ (readWhole text).2 = text ∧
      ∀ sign ∈ (readWhole text).1, Sign.isDigit sign = true := by
  rw [readWhole.eq_def]
  split
  · exact ⟨rfl, by simp +decide⟩
  · rw [digits_eq]
    exact ⟨List.takeWhile_append_dropWhile, fun sign member => List.mem_takeWhile_imp member⟩

theorem digits_suffix (text : Text) : (digits text).2 <:+ text := by
  rw [digits_eq]
  exact List.dropWhile_suffix _

theorem readFraction_suffix (text : Text) : (readFraction text).2 <:+ text := by
  fun_cases readFraction text with
  | case1 | case3 => exact List.suffix_rfl
  | case2 rest => exact (digits_suffix rest).trans (List.suffix_cons _ rest)

theorem readExponent_suffix (text : Text) : (readExponent text).2.2 <:+ text := by
  fun_cases readExponent text with
  | case1 | case2 | case4 => exact List.suffix_rfl
  | case3 mark rest _ negative unsigned signed =>
      have behind : unsigned <:+ rest := by
        split at signed <;> cases signed
        · exact List.suffix_cons _ _
        · exact List.suffix_cons _ _
        · exact List.suffix_rfl
      exact ((digits_suffix unsigned).trans behind).trans (List.suffix_cons mark rest)

/-- The digits of a whole number that has too many are those at the start of the text. -/
theorem within_readUnsigned (start : Text) (negative : Bool) (text : Text) :
    Within (·.isPlain = true) text (readUnsigned start negative text) := by
  obtain ⟨parts, isDigits⟩ := readWhole_append text
  rw [readUnsigned]
  generalize readWhole text = found at parts isDigits
  split
  · exact within_malformed _ _
  · rename_i whole rest _
    have behind : (readExponent (readFraction rest).2).2.2 <:+ text :=
      ((readExponent_suffix _).trans (readFraction_suffix rest)).trans ⟨whole, parts⟩
    dsimp only
    split
    · -- only a number without fraction and exponent is whole, and may have too many digits
      split
      · rename_i many
        exact ⟨by rintro _ _ ⟨⟩, fun _ _ => ⟨whole, ⟨[], rest, parts⟩, isDigits, many⟩,
          by rintro _ _ _ ⟨⟩⟩
      · exact within_ok behind fun _ => isPlain_int _
    · exact within_ok behind fun _ => by rw [isPlain]

theorem within_readNumber (text : Text) : Within (·.isPlain = true) text (readNumber text) := by
  rw [readNumber.eq_def]
  split
  · exact (within_readUnsigned _ _ _).of_suffix (List.suffix_cons _ _)
  · exact within_readUnsigned _ _ _

/-! ## (6) Values -/

theorem within_readKeyword {text : Text} {found : Json × Text}
    (h : readKeyword? text = some found) : Within (·.isPlain = true) text (.ok found) := by
  have plain : ∀ keyword ∈ keywords, keyword.2.isPlain = true := by simp [keywords, isPlain]
  obtain ⟨⟨word, value⟩, member, spelled⟩ := List.exists_of_findSome?_eq_some h
  obtain ⟨rest, behind, rfl⟩ := Option.map_eq_some_iff.mp spelled
  exact within_ok (Text.after?_suffix behind) fun _ => plain _ member

/-- A field without surrogates adds none. -/
theorem havePlain_insertField {fields : List (Text × Json)} (plain : havePlain fields = true)
    {name : Text} (named : name.hasSurrogate = false) {value : Json}
    (own : value.isPlain = true) : havePlain (insertField fields name value) = true := by
  induction fields with
  | nil => simp [insertField, havePlain, named, own]
  | cons field fields ih =>
      obtain ⟨key, old⟩ := field
      simp only [havePlain, Bool.and_eq_true] at plain
      rw [insertField]
      split
      · simp [havePlain, plain, own]
      · simp [havePlain, plain, ih plain.2]

mutual

theorem within_readValue : (steps : Nat) → (source : Text) →
    Within (·.isPlain = true) source (readValue steps source)
  | 0, _ => within_malformed _ _
  | steps + 1, source => by
      rw [readValue.eq_def]
      dsimp only
      split
      · rename_i rest
        refine ((within_readText _ steps rest).of_suffix (List.suffix_cons _ rest)).map ?_
        exact fun _ value fine => by simp [fine]
      · rename_i rest
        have later := List.suffix_cons Sign.leftBrace rest
        split
        · rename_i close
          exact within_ok ((suffix_of_skip close).trans later) fun _ => isPlain_object []
        · refine ((within_readMembers steps [] _).of_suffix ((skip_suffix rest).trans later)).map ?_
          exact fun _ fields fine => (isPlain_object fields).trans (fine rfl)
      · rename_i rest
        have later := List.suffix_cons Sign.leftBracket rest
        split
        · rename_i close
          exact within_ok ((suffix_of_skip close).trans later) fun _ => isPlain_list []
        · refine ((within_readElements steps _).of_suffix ((skip_suffix rest).trans later)).map ?_
          exact fun _ items fine => (isPlain_list items).trans fine
      · split
        · rename_i keyword
          exact within_readKeyword keyword
        · exact within_readNumber source

theorem within_readElements : (steps : Nat) → (source : Text) →
    Within (arePlain · = true) source (readElements steps source)
  | 0, _ => within_malformed _ _
  | steps + 1, source => by
      have first := within_readValue steps source
      rw [readElements.eq_def]
      dsimp only
      split
      · rename_i fault found
        exact (found ▸ first).fault
      · rename_i value rest found
        have later := first.rest _ _ found
        split
        · rename_i close
          refine within_ok ((suffix_of_skip close).trans later) fun plain => ?_
          simp [arePlain, first.fine plain _ _ found]
        · rename_i behind comma
          have others := ((skip_suffix behind).trans (suffix_of_skip comma)).trans later
          refine ((within_readElements steps (skip behind)).of_suffix others).map ?_
          exact fun plain items fine => by simp [arePlain, first.fine plain _ _ found, fine]
        · exact within_malformed _ _

theorem within_readMembers : (steps : Nat) → (before : List (Text × Json)) → (source : Text) →
    Within (fun fields => havePlain before = true → havePlain fields = true) source
      (readMembers steps before source)
  | 0, _, _ => within_malformed _ _
  | steps + 1, before, source => by
      rw [readMembers.eq_def]
      dsimp only
      split
      · rename_i rest
        have name := (within_readText (Sign.doubleQuote :: rest) steps rest).of_suffix
          (List.suffix_cons Sign.doubleQuote rest)
        split
        · rename_i fault found
          exact (found ▸ name).fault
        · rename_i named behind spelled
          have later := name.rest _ _ spelled
          split
          · rename_i behind colon
            have later := ((skip_suffix behind).trans (suffix_of_skip colon)).trans later
            have value := (within_readValue steps (skip behind)).of_suffix later
            split
            · rename_i fault found
              exact (found ▸ value).fault
            · rename_i own behind found
              have later := value.rest _ _ found
              -- the fields before this one are plain by assumption, this one because it was read
              have inserted (plain : spellsSurrogate (Sign.doubleQuote :: rest) = false)
                  (earlier : havePlain before = true) :
                  havePlain (insertField before named own) = true :=
                havePlain_insertField earlier (name.fine plain _ _ spelled)
                  (value.fine plain _ _ found)
              split
              · rename_i close
                exact within_ok ((suffix_of_skip close).trans later) inserted
              · rename_i behind comma
                have others := ((skip_suffix behind).trans (suffix_of_skip comma)).trans later
                refine ((within_readMembers steps _ (skip behind)).of_suffix others).imp ?_
                exact fun plain fields fine earlier => fine (inserted plain earlier)
              · exact within_malformed _ _
          · exact within_malformed _ _
      · exact within_malformed _ _

end

/-- A text whose reading stops at a numeral that is too long has so many digits in a row. -/
theorem hasLongRun_of_read {source : Text} {digits : Nat}
    (h : read source = .error (.longNumeral digits)) : HasLongRun source := by
  rw [read.eq_def] at h
  split at h
  · cases h
  · have within := within_readValue (2 * source.length + 2) (skip source)
    split at h
    · rename_i fault found
      exact (within.long digits (found.trans (by rw [Except.error.inj h]))).of_isInfix
        (skip_suffix source).isInfix
    · split at h <;> cases h

/-- A text that spells no surrogate is read as a value without any. -/
theorem isPlain_of_read {source : Text} {value : Json} (h : read source = .ok value)
    (plain : spellsSurrogate source = false) : value.isPlain = true := by
  rw [read.eq_def] at h
  split at h
  · cases h
  · have within := (within_readValue (2 * source.length + 2) (skip source)).of_suffix
      (skip_suffix source)
    split at h
    · cases h
    · rename_i found rest read
      split at h
      · cases h
        exact within.fine plain _ _ read
      · cases h

/-! ## (7) Digits and nothing else -/

/-- A digit begins a number and nothing else. -/
theorem read_of_digit {sign : Nat} (others : Text) (first : Sign.isDigit sign = true) :
    read (sign :: others) = match readUnsigned (sign :: others) false (sign :: others) with
      | .error fault => .error fault
      | .ok (value, rest) => match skip rest with
        | [] => .ok value
        | rest => stop .extra rest := by
  rw [Sign.isDigit, Bool.and_eq_true, decide_eq_true_eq, decide_eq_true_eq] at first
  obtain ⟨least, most⟩ := first
  interval_cases sign <;> rfl

/-- A text of too many digits is not read. -/
theorem read_of_digits {sign : Nat} {others : Text} (first : Sign.isDigit sign = true)
    (nonzero : sign ≠ Sign.zero) (rest : ∀ sign ∈ others, Sign.isDigit sign = true)
    (many : numeralLimit ≤ others.length) :
    read (sign :: others) = .error (.longNumeral (others.length + 1)) := by
  have whole : readWhole (sign :: others) = (sign :: others, []) := by
    rw [readWhole.eq_def]
    split
    · rename_i same
      exact absurd (List.cons.inj same).1 nonzero
    · rw [digits_eq, List.takeWhile_eq_self_iff.mpr, List.dropWhile_eq_nil_iff.mpr] <;>
      · simpa [first] using rest
  have unread : readUnsigned (sign :: others) false (sign :: others) =
      .error (.longNumeral (others.length + 1)) := by
    simp [readUnsigned, whole, readFraction, readExponent, Nat.lt_succ_of_le many]
  rw [read_of_digit others first, unread]

end Coursework.Json
