import Coursework.Json.Writer
import Coursework.Proofs.Json.Reading
import Coursework.Proofs.Text.Numeral
import Coursework.Proofs.Text.Utf8

/-! # Written values are read back

A value is written with escapes for all signs beyond ASCII, and with any white space between its
parts. Reading takes both away again, so that the value comes back as it was: texts to the sign,
numbers to the digit, and fields in their order.

* **`Json.Legible`** are the values that come back: their texts have no surrogates, their whole
  numbers are within the limit of digits, and no name stands twice in an object.
* **`Json.readText_written`**, **`Json.readValue_ofInt`**, **`Json.readElements_writeItems`** and
  **`Json.readMembers_writeFields`** are the parts; **`Legible.readsBack`** joins them.
* **`Json.read_write`** is the statement about whole texts. -/

namespace Coursework

/-! ## (1) Signs -/

theorem Sign.hexValue?_hexDigit {value : Nat} (small : value < 16) :
    hexValue? (hexDigit value) = some value := by
  have every : ∀ value : Fin 16, hexValue? (hexDigit value.val) = some value.val := by decide
  exact every ⟨value, small⟩

namespace Json

/-- The escape of a unit has four digits that spell it. -/
theorem exists_escapeUnit {unit : Nat} (small : unit < 0x10000) :
    ∃ a b c d, escapeUnit unit = [Sign.backslash, 117, a, b, c, d] ∧
      hexValue? a b c d = some unit := by
  refine ⟨Sign.hexDigit (unit / 16 / 16 / 16 % 16), Sign.hexDigit (unit / 16 / 16 % 16),
    Sign.hexDigit (unit / 16 % 16), Sign.hexDigit (unit % 16), rfl, ?_⟩
  have spelled : ((unit / 16 / 16 / 16 % 16 * 16 + unit / 16 / 16 % 16) * 16 + unit / 16 % 16) *
      16 + unit % 16 = unit := by
    omega
  have digit (value : Nat) : Sign.hexValue? (Sign.hexDigit (value % 16)) = some (value % 16) :=
    Sign.hexValue?_hexDigit (Nat.mod_lt _ (by decide))
  simp only [hexValue?, digit, Option.bind_eq_bind, Option.bind_some, Option.pure_def, spelled]

/-- An escape stands for its unit, unless that opens a pair. -/
theorem readEscape_unit {unit : Nat} (small : unit < 0x10000)
    (single : Sign.isHighSurrogate unit = false) (opening : Text) {rest : Text}
    (more : rest ≠ []) :
    ∃ spelled, escapeUnit unit = Sign.backslash :: spelled ∧
      readEscape opening (spelled ++ rest) = .ok (unit, rest) := by
  obtain ⟨a, b, c, d, written, value⟩ := exists_escapeUnit small
  refine ⟨[117, a, b, c, d], written, ?_⟩
  have goesOn : rest.isEmpty = false := List.isEmpty_eq_false_iff.mpr more
  simp only [List.cons_append, List.nil_append, readEscape, goesOn, value, single, Bool.false_and]
  rw [if_neg Bool.false_ne_true]
  split <;> rfl

/-- Two escapes stand for the code point of a pair. -/
theorem readEscape_pair {high low : Nat} (opens : Sign.isHighSurrogate high = true)
    (closes : Sign.isLowSurrogate low = true) (opening : Text) {rest : Text} (more : rest ≠ []) :
    ∃ spelled, escapeUnit high ++ escapeUnit low = Sign.backslash :: spelled ∧
      readEscape opening (spelled ++ rest) = .ok (Sign.ofSurrogates high low, rest) := by
  have below : high < 0x10000 ∧ low < 0x10000 := by
    simp only [Sign.isHighSurrogate, Sign.isLowSurrogate, Bool.and_eq_true, decide_eq_true_eq]
      at opens closes
    omega
  obtain ⟨a, b, c, d, first, highValue⟩ := exists_escapeUnit below.1
  obtain ⟨e, f, g, h, second, lowValue⟩ := exists_escapeUnit below.2
  refine ⟨[117, a, b, c, d, Sign.backslash, 117, e, f, g, h], by rw [first, second]; rfl, ?_⟩
  have goesOn : rest.isEmpty = false := List.isEmpty_eq_false_iff.mpr more
  simp only [List.cons_append, List.nil_append, readEscape, List.isEmpty_cons, highValue, opens,
    goesOn, lowValue, closes]
  rfl

/-! ## (2) Quoted texts -/

/-- A sign is read back from its written form, before a text that goes on. -/
theorem readText_writeSign {sign : Nat} (scalar : Sign.isScalar sign = true) (opening : Text)
    (steps : Nat) {rest : Text} (more : rest ≠ []) :
    readText opening (steps + 1) (writeSign sign ++ rest) =
      consText sign (readText opening steps rest) := by
  -- an escape is read as what it stands for
  have escaped {spelled : Text} (found : readEscape opening (spelled ++ rest) = .ok (sign, rest)) :
      readText opening (steps + 1) (Sign.backslash :: spelled ++ rest) =
        consText sign (readText opening steps rest) := by
    rw [List.cons_append, readText, if_neg (by decide), if_pos rfl, found]
  simp only [Sign.isScalar, Sign.isSurrogate, Bool.and_eq_true, Bool.not_eq_true',
    Bool.and_eq_false_iff, decide_eq_true_eq, decide_eq_false_iff_not] at scalar
  rw [writeSign]
  split
  · rename_i mark
    simp only [Bool.or_eq_true, decide_eq_true_eq] at mark
    rcases mark with rfl | rfl <;> exact escaped rfl
  split
  · rename_i unmarked printable
    simp only [Bool.or_eq_true, decide_eq_true_eq, not_or, Bool.and_eq_true] at unmarked printable
    rw [List.cons_append, readText, if_neg unmarked.1, if_neg unmarked.2,
      if_neg (Nat.not_lt.mpr printable.1)]
    rfl
  split
  · rename_i newline
    subst newline
    exact escaped rfl
  split
  · rename_i carriageReturn
    subst carriageReturn
    exact escaped rfl
  split
  · rename_i tab
    subst tab
    exact escaped rfl
  split
  · rename_i formFeed
    subst formFeed
    exact escaped rfl
  split
  · rename_i backspace
    subst backspace
    exact escaped rfl
  split
  · rename_i small
    have single : Sign.isHighSurrogate sign = false := by
      simp only [Sign.isHighSurrogate, Bool.and_eq_false_iff, decide_eq_false_iff_not]
      omega
    obtain ⟨spelled, written, found⟩ := readEscape_unit small single opening more
    rw [written]
    exact escaped found
  · rename_i large
    have opens : Sign.isHighSurrogate (0xD800 + (sign - 0x10000) / 0x400) = true := by
      simp only [Sign.isHighSurrogate, Bool.and_eq_true, decide_eq_true_eq]
      omega
    have closes : Sign.isLowSurrogate (0xDC00 + (sign - 0x10000) % 0x400) = true := by
      simp only [Sign.isLowSurrogate, Bool.and_eq_true, decide_eq_true_eq]
      omega
    obtain ⟨spelled, written, found⟩ := readEscape_pair opens closes opening more
    have same : Sign.ofSurrogates (0xD800 + (sign - 0x10000) / 0x400)
        (0xDC00 + (sign - 0x10000) % 0x400) = sign := by
      unfold Sign.ofSurrogates
      omega
    rw [same] at found
    rw [written]
    exact escaped found

/-- The signs of a written text stand between its quotes. -/
theorem writeText_append (value behind : Text) :
    writeText value ++ behind =
      Sign.doubleQuote :: (value.flatMap writeSign ++ Sign.doubleQuote :: behind) := by
  simp [writeText]

/-- A text is read back up to its closing quote. -/
theorem readText_written {value : Text} (scalar : Text.IsScalar value) (opening : Text)
    {steps : Nat} (enough : value.length < steps) (rest : Text) :
    readText opening steps (value.flatMap writeSign ++ Sign.doubleQuote :: rest) =
      .ok (value, rest) := by
  induction value generalizing steps with
  | nil =>
      cases steps with
      | zero => cases enough
      | succ steps => rw [List.flatMap_nil, List.nil_append, readText, if_pos rfl]
  | cons sign value ih =>
      obtain ⟨first, others⟩ := List.forall_mem_cons.mp scalar
      cases steps with
      | zero => cases enough
      | succ steps =>
          have more : value.flatMap writeSign ++ Sign.doubleQuote :: rest ≠ [] := by simp
          rw [List.flatMap_cons, List.append_assoc, readText_writeSign first opening steps more,
            ih others (Nat.lt_of_succ_lt_succ enough)]
          rfl

/-! ## (3) What follows a value -/

/-- The signs that may follow a value: white space, commas and closing brackets. -/
def closes (sign : Nat) : Bool :=
  isSeparator sign || sign == Sign.comma || sign == Sign.rightBracket || sign == Sign.rightBrace

/-- A text may follow a value: it is empty or begins with such a sign. -/
def Closed (rest : Text) : Prop := ∀ sign, rest.head? = some sign → closes sign = true

theorem closed_nil : Closed [] := by
  intro sign none
  cases none

theorem closed_cons {sign : Nat} (own : closes sign = true) (rest : Text) :
    Closed (sign :: rest) := by
  intro other same
  rw [← Option.some.inj same]
  exact own

/-- White space may follow a value, if what follows that may. -/
theorem Closed.append {blank rest : Text} (closed : Closed rest)
    (separates : ∀ sign ∈ blank, isSeparator sign = true) : Closed (blank ++ rest) := by
  cases blank with
  | nil => exact closed
  | cons sign blank =>
      refine closed_cons ?_ _
      rw [closes, separates sign List.mem_cons_self]
      rfl

/-- No number goes on with such a sign. -/
theorem ne_of_closes {sign : Nat} (own : closes sign = true) :
    Sign.isDigit sign = false ∧ sign ≠ Sign.fullStop ∧ sign ≠ 101 ∧ sign ≠ 69 := by
  simp only [closes, isSeparator, Bool.or_eq_true, beq_iff_eq] at own
  rcases own with (((((rfl | rfl) | rfl) | rfl) | rfl) | rfl) | rfl <;> decide

/-! ## (4) Numbers -/

theorem Closed.digits_append {rest : Text} (closed : Closed rest) {numeral : Text}
    (isDigits : ∀ sign ∈ numeral, Sign.isDigit sign = true) :
    digits (numeral ++ rest) = (numeral, rest) := by
  have stops : rest.takeWhile Sign.isDigit = [] ∧ rest.dropWhile Sign.isDigit = rest := by
    cases rest with
    | nil => exact ⟨rfl, rfl⟩
    | cons sign rest => simp [(ne_of_closes (closed sign rfl)).1]
  rw [digits_eq, List.takeWhile_append_of_pos isDigits, List.dropWhile_append_of_pos isDigits,
    stops.1, stops.2, List.append_nil]

/-- The digits of a number are read up to what follows it. -/
theorem Closed.readWhole_ofNat {rest : Text} (closed : Closed rest) (number : Nat) :
    readWhole (Text.ofNat number ++ rest) = (Text.ofNat number, rest) := by
  by_cases positive : 0 < number
  · have first := Text.head?_ofNat positive
    have isDigits : ∀ sign ∈ Text.ofNat number, Sign.isDigit sign = true :=
      fun sign => Text.isDigit_of_mem_ofNat
    have whole := closed.digits_append isDigits
    obtain ⟨digit, others, numeral⟩ := List.exists_cons_of_ne_nil (Text.ofNat_ne_nil number)
    rw [numeral] at first whole ⊢
    rw [readWhole.eq_def]
    split
    · rename_i zero
      exact absurd (congrArg some (List.cons.inj zero).1) first
    · exact whole
  · obtain rfl := Nat.eq_zero_of_not_pos positive
    rfl

theorem Closed.readFraction {rest : Text} (closed : Closed rest) :
    readFraction rest = ([], rest) := by
  rw [readFraction.eq_def]
  split
  · exact absurd rfl (ne_of_closes (closed _ rfl)).2.1
  · rfl

theorem Closed.readExponent {rest : Text} (closed : Closed rest) :
    readExponent rest = (false, [], rest) := by
  rw [readExponent.eq_def]
  split
  · rfl
  · obtain ⟨-, -, small, capital⟩ := ne_of_closes (closed _ rfl)
    rw [if_neg]
    simp only [Bool.or_eq_true, decide_eq_true_eq, not_or]
    exact ⟨small, capital⟩

/-- A number is read back behind its sign. -/
theorem Closed.readUnsigned_ofNat {rest : Text} (closed : Closed rest) (start : Text)
    (negative : Bool) {number : Nat} (short : (Text.ofNat number).length ≤ numeralLimit) :
    readUnsigned start negative (Text.ofNat number ++ rest) =
      .ok (.int (if negative then -(number : Int) else number), rest) := by
  rw [readUnsigned, closed.readWhole_ofNat]
  split
  · rename_i none
    exact absurd (congrArg Prod.fst none) (Text.ofNat_ne_nil number)
  · rename_i whole behind _ found
    obtain ⟨rfl, rfl⟩ := Prod.mk.inj found
    rw [closed.readFraction]
    dsimp only
    rw [closed.readExponent]
    dsimp only
    rw [if_pos (by rfl), if_neg (Nat.not_lt.mpr short), Text.natOfDigits_ofNat]

/-- A digit begins a number, and so does a digit behind a hyphen. -/
theorem readValue_of_digit {sign : Nat} (isDigit : Sign.isDigit sign = true) (steps : Nat)
    (others : Text) :
    readValue (steps + 1) (sign :: others) =
        readUnsigned (sign :: others) false (sign :: others) ∧
      readValue (steps + 1) (Sign.hyphen :: sign :: others) =
        readUnsigned (Sign.hyphen :: sign :: others) true (sign :: others) := by
  rw [Sign.isDigit, Bool.and_eq_true, decide_eq_true_eq, decide_eq_true_eq] at isDigit
  obtain ⟨least, most⟩ := isDigit
  interval_cases sign <;> exact ⟨rfl, rfl⟩

/-- A whole number is within the limit of digits. -/
def Short (number : Int) : Prop := (Text.ofNat number.natAbs).length ≤ numeralLimit

instance (number : Int) : Decidable (Short number) :=
  inferInstanceAs (Decidable ((Text.ofNat number.natAbs).length ≤ numeralLimit))

/-- A whole number is read back. -/
theorem Closed.readValue_ofInt {rest : Text} (closed : Closed rest) (steps : Nat) {number : Int}
    (short : Short number) :
    readValue (steps + 1) (Text.ofInt number ++ rest) = .ok (.int number, rest) := by
  obtain ⟨digit, others, numeral⟩ :=
    List.exists_cons_of_ne_nil (Text.ofNat_ne_nil number.natAbs)
  have isDigit : Sign.isDigit digit = true :=
    Text.isDigit_of_mem_ofNat (numeral ▸ List.mem_cons_self)
  have reads := readValue_of_digit isDigit steps (others ++ rest)
  rw [← List.cons_append, ← numeral, ← List.cons_append] at reads
  cases number with
  | ofNat number => exact reads.1.trans (closed.readUnsigned_ofNat _ false short)
  | negSucc number => exact reads.2.trans (closed.readUnsigned_ofNat _ true short)

/-- A numeral of too many digits is no number. -/
theorem Closed.readUnsigned_long {rest : Text} (closed : Closed rest) (start : Text)
    (negative : Bool) {number : Nat} (long : numeralLimit < (Text.ofNat number).length) :
    readUnsigned start negative (Text.ofNat number ++ rest) =
      .error (.longNumeral (Text.ofNat number).length) := by
  rw [readUnsigned, closed.readWhole_ofNat]
  split
  · rename_i none
    exact absurd (congrArg Prod.fst none) (Text.ofNat_ne_nil number)
  · rename_i whole behind _ found
    obtain ⟨rfl, rfl⟩ := Prod.mk.inj found
    rw [closed.readFraction]
    dsimp only
    rw [closed.readExponent]
    dsimp only
    rw [if_pos (by rfl), if_pos long]

/-- A whole number that is read is within the limit of digits. -/
theorem Closed.short_of_readValue {rest : Text} (closed : Closed rest) {steps : Nat}
    {number : Int} {found : Json × Text}
    (read : readValue (steps + 1) (Text.ofInt number ++ rest) = .ok found) : Short number := by
  obtain ⟨digit, others, numeral⟩ :=
    List.exists_cons_of_ne_nil (Text.ofNat_ne_nil number.natAbs)
  have isDigit : Sign.isDigit digit = true :=
    Text.isDigit_of_mem_ofNat (numeral ▸ List.mem_cons_self)
  have reads := readValue_of_digit isDigit steps (others ++ rest)
  rw [← List.cons_append, ← numeral, ← List.cons_append] at reads
  by_contra long
  have unread (start : Text) (negative : Bool) :=
    closed.readUnsigned_long start negative (Nat.lt_of_not_le long)
  cases number with
  | ofNat number => cases read.symm.trans (reads.1.trans (unread _ false))
  | negSucc number => cases read.symm.trans (reads.2.trans (unread _ true))

end Json

/-! ## (5) Layouts -/

namespace Layout

/-- The start of a line is white space. -/
theorem isSeparator_of_mem_lineStart {layout : Layout} {depth sign : Nat}
    (member : sign ∈ layout.lineStart depth) : Json.isSeparator sign = true := by
  rw [lineStart] at member
  cases unit : layout.indentation with
  | none =>
      rw [unit] at member
      cases member
  | some indented =>
      rw [unit] at member
      rcases List.mem_cons.mp member with rfl | member
      · decide
      · obtain ⟨piece, repeated, inside⟩ := List.mem_flatten.mp member
        obtain rfl := List.eq_of_mem_replicate repeated
        exact layout.separates piece unit sign inside

/-- A comma and white space stand between two items. -/
theorem exists_separator (layout : Layout) (depth : Nat) :
    ∃ blank, layout.separator depth = Sign.comma :: blank ∧
      ∀ sign ∈ blank, Json.isSeparator sign = true := by
  rw [separator]
  cases layout.indentation with
  | none => exact ⟨[Sign.space], rfl, by decide⟩
  | some _ => exact ⟨layout.lineStart depth, rfl, fun _ => isSeparator_of_mem_lineStart⟩

end Layout

namespace Json

variable {layout : Layout}

/-- White space is skipped. -/
theorem skip_append {blank : Text} (separates : ∀ sign ∈ blank, isSeparator sign = true)
    (rest : Text) : skip (blank ++ rest) = skip rest :=
  List.dropWhile_append_of_pos separates

/-! ## (6) Values -/

/-- A value comes back when it is written and read: its texts have no surrogates, its whole numbers
are within the limit of digits, the names of an object differ, and no number is a fraction. -/
inductive Legible : Json → Prop
  /-- Null is spelled. -/
  | null : Legible .null
  /-- So are truth values. -/
  | bool (value : Bool) : Legible (.bool value)
  /-- Whole numbers are within the limit of digits. -/
  | int {number : Int} (short : Short number) : Legible (.int number)
  /-- Texts have no surrogates. -/
  | text {value : Text} (scalar : Text.IsScalar value) : Legible (.text value)
  /-- Lists have items that come back. -/
  | list {items : List Json} (legible : ∀ item ∈ items, Legible item) : Legible (.list items)
  /-- Objects have fields that come back, under names that do and that differ. -/
  | object {fields : List (Text × Json)} (distinct : (fields.map Prod.fst).Nodup)
    (named : ∀ name ∈ fields.map Prod.fst, Text.IsScalar name)
    (legible : ∀ field ∈ fields, Legible field.2) : Legible (.object fields)

/-- A list that is not empty is written with its items between brackets. -/
theorem writeAt_list {items : List Json} (some : items ≠ []) (layout : Layout) (depth : Nat) :
    writeAt layout depth (.list items) =
      Sign.leftBracket :: (layout.lineStart (depth + 1) ++ (writeItems layout (depth + 1) items ++
        (layout.lineStart depth ++ [Sign.rightBracket]))) := by
  cases items with
  | nil => exact absurd rfl some
  | cons item items => simp [writeAt]

/-- An object that is not empty is written with its fields between braces. -/
theorem writeAt_object {fields : List (Text × Json)} (some : fields ≠ []) (layout : Layout)
    (depth : Nat) :
    writeAt layout depth (.object fields) =
      Sign.leftBrace :: (layout.lineStart (depth + 1) ++ (writeFields layout (depth + 1) fields ++
        (layout.lineStart depth ++ [Sign.rightBrace]))) := by
  cases fields with
  | nil => exact absurd rfl some
  | cons field fields => simp [writeAt]

/-- The signs with which a value may begin. -/
def opens (sign : Nat) : Bool :=
  !isSeparator sign && sign != Sign.rightBracket && sign != Sign.byteOrderMark

/-- A value begins with such a sign. -/
theorem Legible.exists_writeAt_eq {value : Json} (legible : Legible value) (layout : Layout)
    (depth : Nat) :
    ∃ sign others, writeAt layout depth value = sign :: others ∧ opens sign = true := by
  cases legible with
  | null => exact ⟨_, _, rfl, by decide⟩
  | bool value => cases value <;> exact ⟨_, _, rfl, by decide⟩
  | @int number short =>
      have ofNat (number : Nat) : ∃ sign others, Text.ofNat number = sign :: others ∧
          opens sign = true := by
        obtain ⟨digit, others, numeral⟩ := List.exists_cons_of_ne_nil (Text.ofNat_ne_nil number)
        have isDigit : Sign.isDigit digit = true :=
          Text.isDigit_of_mem_ofNat (numeral ▸ List.mem_cons_self)
        rw [Sign.isDigit, Bool.and_eq_true, decide_eq_true_eq, decide_eq_true_eq] at isDigit
        obtain ⟨least, most⟩ := isDigit
        refine ⟨digit, others, numeral, ?_⟩
        interval_cases digit <;> decide
      rw [writeAt]
      cases number with
      | ofNat number => exact ofNat number
      | negSucc number => exact ⟨_, _, rfl, by decide⟩
  | text scalar =>
      rw [writeAt]
      exact ⟨_, _, rfl, by decide⟩
  | @list items legible =>
      cases items with
      | nil => exact ⟨_, _, rfl, by decide⟩
      | cons item items =>
          exact ⟨_, _, writeAt_list (List.cons_ne_nil item items) layout depth, by decide⟩
  | @object fields distinct named legible =>
      cases fields with
      | nil => exact ⟨_, _, rfl, by decide⟩
      | cons field fields =>
          exact ⟨_, _, writeAt_object (List.cons_ne_nil field fields) layout depth, by decide⟩

/-- Wherever a value is written, and whatever may follow it there, it is read back. -/
def ReadsBack (layout : Layout) (value : Json) : Prop :=
  ∀ (depth steps : Nat) (rest : Text), Closed rest → (writeAt layout depth value).length ≤ steps →
    readValue steps (writeAt layout depth value ++ rest) = .ok (value, rest)

theorem skip_cons {sign : Nat} (stays : isSeparator sign = false) (rest : Text) :
    skip (sign :: rest) = sign :: rest :=
  List.dropWhile_cons_of_neg (Bool.eq_false_iff.mp stays)

/-- Nothing is skipped before a value. -/
theorem Legible.skip_writeAt {value : Json} (legible : Legible value) (layout : Layout)
    (depth : Nat) (rest : Text) :
    skip (writeAt layout depth value ++ rest) = writeAt layout depth value ++ rest := by
  obtain ⟨sign, others, written, begins⟩ := legible.exists_writeAt_eq layout depth
  simp only [opens, Bool.and_eq_true, Bool.not_eq_true'] at begins
  rw [written]
  exact skip_cons begins.1.1 _

/-! ## (7) Items -/

/-- Items begin with the first of them. -/
theorem exists_writeItems_eq {items : List Json} (some : items ≠ []) (layout : Layout)
    (depth : Nat) : ∃ item ∈ items, ∃ behind,
      writeItems layout depth items = writeAt layout depth item ++ behind := by
  cases items with
  | nil => exact absurd rfl some
  | cons item items =>
      refine ⟨item, List.mem_cons_self, ?_⟩
      cases items with
      | nil => exact ⟨[], by rw [writeItems, List.append_nil]⟩
      | cons next items => exact ⟨_, by rw [writeItems, List.append_assoc]⟩

theorem skip_writeItems {items : List Json} (some : items ≠ [])
    (legible : ∀ item ∈ items, Legible item) (layout : Layout) (depth : Nat) (rest : Text) :
    skip (writeItems layout depth items ++ rest) = writeItems layout depth items ++ rest := by
  obtain ⟨item, member, behind, begins⟩ := exists_writeItems_eq some layout depth
  rw [begins, List.append_assoc]
  exact (legible item member).skip_writeAt layout depth _

section Elements

variable {steps : Nat} {text rest behind : Text} {value : Json}

/-- An item before a bracket is the last. -/
theorem readElements_last (read : readValue steps text = .ok (value, rest))
    (next : skip rest = Sign.rightBracket :: behind) :
    readElements (steps + 1) text = .ok ([value], behind) := by
  rw [readElements, read]
  dsimp only
  rw [next]
  rfl

/-- Behind a comma the others follow. -/
theorem readElements_comma (read : readValue steps text = .ok (value, rest))
    (next : skip rest = Sign.comma :: behind) :
    readElements (steps + 1) text =
      (readElements steps (skip behind)).map fun (items, rest) => (value :: items, rest) := by
  rw [readElements, read]
  dsimp only
  rw [next]
  rfl

end Elements

/-- The items of a list are read back up to its closing bracket, before which white space may
stand. -/
theorem readElements_writeItems {depth : Nat} {blank : Text} (rest : Text) {items : List Json}
    (some : items ≠ []) (legible : ∀ item ∈ items, Legible item)
    (reads : ∀ item ∈ items, ReadsBack layout item)
    (separates : ∀ sign ∈ blank, isSeparator sign = true) {steps : Nat}
    (enough : (writeItems layout depth items).length < steps) :
    readElements steps (writeItems layout depth items ++ (blank ++ Sign.rightBracket :: rest)) =
      .ok (items, rest) := by
  have closing : skip (blank ++ Sign.rightBracket :: rest) = Sign.rightBracket :: rest :=
    (skip_append separates _).trans (skip_cons (by decide) rest)
  have closed : Closed (blank ++ Sign.rightBracket :: rest) :=
    (closed_cons (by decide) rest).append separates
  induction items generalizing steps with
  | nil => exact absurd rfl some
  | cons item items ih =>
      have own := reads item List.mem_cons_self
      cases steps with
      | zero => exact absurd enough (Nat.not_lt_zero _)
      | succ steps =>
          cases items with
          | nil =>
              rw [writeItems] at enough ⊢
              exact readElements_last (own depth steps _ closed (Nat.le_of_lt_succ enough)) closing
          | cons next items =>
              obtain ⟨between, separator, blankBetween⟩ := layout.exists_separator depth
              have later := fun other member => legible other (List.mem_cons_of_mem item member)
              have others := fun other member => reads other (List.mem_cons_of_mem item member)
              have more : next :: items ≠ [] := List.cons_ne_nil next items
              rw [writeItems, separator] at enough ⊢
              simp only [List.length_append, List.length_cons] at enough
              rw [List.append_assoc, List.append_assoc, List.cons_append,
                readElements_comma (own depth steps _ (closed_cons (by decide) _) (by omega))
                  (skip_cons (by decide) _),
                skip_append blankBetween, skip_writeItems more later,
                ih more later others (by omega)]
              rfl

/-! ## (8) Fields -/

/-- A name that is new comes last. -/
theorem insertField_of_not_mem {fields : List (Text × Json)} {name : Text}
    (new : name ∉ fields.map Prod.fst) (value : Json) :
    insertField fields name value = fields ++ [(name, value)] := by
  induction fields with
  | nil => rfl
  | cons field fields ih =>
      obtain ⟨key, old⟩ := field
      rw [List.map_cons, List.mem_cons, not_or] at new
      rw [insertField, if_neg (Ne.symm new.1), ih new.2, List.cons_append]

/-- Fields begin with the quote of a name. -/
theorem exists_writeFields_eq {fields : List (Text × Json)} (some : fields ≠ []) (layout : Layout)
    (depth : Nat) : ∃ others, writeFields layout depth fields = Sign.doubleQuote :: others := by
  cases fields with
  | nil => exact absurd rfl some
  | cons field fields =>
      obtain ⟨name, value⟩ := field
      cases fields with
      | nil => exact ⟨_, rfl⟩
      | cons next fields => exact ⟨_, rfl⟩

theorem skip_writeFields {fields : List (Text × Json)} (some : fields ≠ []) (layout : Layout)
    (depth : Nat) (rest : Text) :
    skip (writeFields layout depth fields ++ rest) = writeFields layout depth fields ++ rest := by
  obtain ⟨others, begins⟩ := exists_writeFields_eq some layout depth
  rw [begins]
  exact skip_cons (by decide) _

/-- No sign of a text is lost. -/
theorem length_le_writeText (value : Text) : value.length + 2 ≤ (writeText value).length := by
  have some (sign : Nat) : 0 < (writeSign sign).length := by
    unfold writeSign
    split_ifs <;> simp [escapeUnit, Text.ofString]
  have every : value.length ≤ (value.flatMap writeSign).length := by
    induction value with
    | nil => exact Nat.le_refl 0
    | cons sign value ih =>
        have first := some sign
        rw [List.flatMap_cons, List.length_append, List.length_cons]
        omega
  rw [writeText, List.length_append, List.length_cons, List.length_singleton]
  omega

section Members

variable {steps : Nat} {before : List (Text × Json)} {name text rest behind : Text} {value : Json}

/-- A field before a brace is the last. -/
theorem readMembers_last (scalar : Text.IsScalar name) (enough : name.length < steps)
    (read : readValue steps (skip text) = .ok (value, rest))
    (next : skip rest = Sign.rightBrace :: behind) :
    readMembers (steps + 1) before (writeText name ++ Sign.colon :: text) =
      .ok (insertField before name value, behind) := by
  have named := readText_written scalar (writeText name ++ Sign.colon :: text) enough
    (Sign.colon :: text)
  have colon : skip (Sign.colon :: text) = Sign.colon :: text := skip_cons (by decide) text
  rw [writeText_append] at named ⊢
  simp only [readMembers, named, colon, read, next]

/-- Behind a comma the others follow. -/
theorem readMembers_comma (scalar : Text.IsScalar name) (enough : name.length < steps)
    (read : readValue steps (skip text) = .ok (value, rest))
    (next : skip rest = Sign.comma :: behind) :
    readMembers (steps + 1) before (writeText name ++ Sign.colon :: text) =
      readMembers steps (insertField before name value) (skip behind) := by
  have named := readText_written scalar (writeText name ++ Sign.colon :: text) enough
    (Sign.colon :: text)
  have colon : skip (Sign.colon :: text) = Sign.colon :: text := skip_cons (by decide) text
  rw [writeText_append] at named ⊢
  simp only [readMembers, named, colon, read, next]

end Members

/-- The fields of an object are read back up to its closing brace, before which white space may
stand, and behind fields that were read before. -/
theorem readMembers_writeFields {depth : Nat} {blank : Text} (rest : Text)
    {fields before : List (Text × Json)} (some : fields ≠ [])
    (distinct : ((before ++ fields).map Prod.fst).Nodup)
    (named : ∀ name ∈ fields.map Prod.fst, Text.IsScalar name)
    (legible : ∀ field ∈ fields, Legible field.2)
    (reads : ∀ field ∈ fields, ReadsBack layout field.2)
    (separates : ∀ sign ∈ blank, isSeparator sign = true) {steps : Nat}
    (enough : (writeFields layout depth fields).length < steps) :
    readMembers steps before
        (writeFields layout depth fields ++ (blank ++ Sign.rightBrace :: rest)) =
      .ok (before ++ fields, rest) := by
  have closing : skip (blank ++ Sign.rightBrace :: rest) = Sign.rightBrace :: rest :=
    (skip_append separates _).trans (skip_cons (by decide) rest)
  have closed : Closed (blank ++ Sign.rightBrace :: rest) :=
    (closed_cons (by decide) rest).append separates
  induction fields generalizing steps before with
  | nil => exact absurd rfl some
  | cons field fields ih =>
      obtain ⟨name, value⟩ := field
      have own : ReadsBack layout value := reads (name, value) List.mem_cons_self
      have first : Legible value := legible (name, value) List.mem_cons_self
      have scalar : Text.IsScalar name := named name List.mem_cons_self
      have new : name ∉ before.map Prod.fst := by
        intro old
        rw [List.map_append, List.nodup_append] at distinct
        exact distinct.2.2 name old name List.mem_cons_self rfl
      -- a space stands between the colon and the value
      have begins (rest : Text) : skip (Sign.space :: (writeAt layout depth value ++ rest)) =
          writeAt layout depth value ++ rest :=
        (List.dropWhile_cons_of_pos (by decide)).trans (first.skip_writeAt layout depth rest)
      have colon (rest : Text) :
          writeText name ++ (": " : Text) ++ writeAt layout depth value ++ rest =
            writeText name ++ Sign.colon :: Sign.space :: (writeAt layout depth value ++ rest) := by
        rw [List.append_assoc, List.append_assoc]
        rfl
      have long := length_le_writeText name
      cases steps with
      | zero => exact absurd enough (Nat.not_lt_zero _)
      | succ steps =>
          cases fields with
          | nil =>
              rw [writeFields] at enough ⊢
              simp only [List.length_append] at enough
              rw [colon, readMembers_last scalar (by omega)
                (begins _ ▸ own depth steps _ closed (by omega)) closing,
                insertField_of_not_mem new]
          | cons next fields =>
              obtain ⟨between, separator, blankBetween⟩ := layout.exists_separator depth
              have more : next :: fields ≠ [] := List.cons_ne_nil next fields
              have namedLater := fun other member => named other (List.mem_cons_of_mem name member)
              have later := fun field member => legible field (List.mem_cons_of_mem _ member)
              have others := fun field member => reads field (List.mem_cons_of_mem _ member)
              have apart :
                  (((before ++ [(name, value)]) ++ next :: fields).map Prod.fst).Nodup := by
                rw [List.append_assoc]
                exact distinct
              rw [writeFields, separator] at enough ⊢
              simp only [List.length_append, List.length_cons] at enough
              rw [List.append_assoc, List.append_assoc, List.cons_append, colon,
                readMembers_comma scalar (by omega)
                  (begins _ ▸ own depth steps _ (closed_cons (by decide) _) (by omega))
                  (skip_cons (by decide) _),
                skip_append blankBetween, skip_writeFields more, insertField_of_not_mem new,
                ih more apart namedLater later others (by omega), List.append_assoc]
              rfl

/-! ## (9) Values that come back -/

/-- A value that is spelled with a word is read back. -/
theorem readValue_word {word : Text} {value : Json} (spelled : (word, value) ∈ keywords)
    (steps : Nat) (rest : Text) : readValue (steps + 1) (word ++ rest) = .ok (value, rest) := by
  simp only [keywords, List.mem_cons, List.not_mem_nil, or_false, Prod.mk.injEq] at spelled
  rcases spelled with
    ⟨rfl, rfl⟩ | ⟨rfl, rfl⟩ | ⟨rfl, rfl⟩ | ⟨rfl, rfl⟩ | ⟨rfl, rfl⟩ | ⟨rfl, rfl⟩ <;>
    cases rest <;> rfl

section Brackets

variable {steps : Nat} {text : Text}

/-- A list that does not end at once has items. -/
theorem readValue_leftBracket (more : ∀ others, skip text ≠ Sign.rightBracket :: others) :
    readValue (steps + 1) (Sign.leftBracket :: text) =
      (readElements steps (skip text)).map fun (items, rest) => (.list items, rest) := by
  rw [readValue]
  split
  · rename_i ends
    exact absurd ends (more _)
  · rfl

/-- An object that does not end at once has fields. -/
theorem readValue_leftBrace (more : ∀ others, skip text ≠ Sign.rightBrace :: others) :
    readValue (steps + 1) (Sign.leftBrace :: text) =
      (readMembers steps [] (skip text)).map fun (fields, rest) => (.object fields, rest) := by
  rw [readValue]
  split
  · rename_i ends
    exact absurd ends (more _)
  · rfl

/-- A whole text is an object if its fields are read and nothing follows. -/
theorem read_leftBrace (more : ∀ others, skip text ≠ Sign.rightBrace :: others) (value : Json) :
    read (Sign.leftBrace :: text) = .ok value ↔ ∃ fields rest,
      readMembers (2 * text.length + 3) [] (skip text) = .ok (fields, rest) ∧ skip rest = [] ∧
        value = .object fields := by
  have begins : skip (Sign.leftBrace :: text) = Sign.leftBrace :: text := skip_cons (by decide) _
  have steps : 2 * (Sign.leftBrace :: text).length + 2 = 2 * text.length + 3 + 1 := by
    rw [List.length_cons]
    omega
  rw [read.eq_def, begins, steps, readValue_leftBrace more]
  split
  · rename_i mark
    exact absurd (List.cons.inj mark).1 (by decide)
  · cases readMembers (2 * text.length + 3) [] (skip text) with
    | error fault => simp [Except.map]
    | ok found =>
        obtain ⟨fields, rest⟩ := found
        dsimp only [Except.map]
        cases behind : skip rest with
        | nil =>
            constructor
            · intro same
              exact ⟨fields, rest, rfl, behind, (Except.ok.inj same).symm⟩
            · rintro ⟨_, _, ⟨⟩, -, rfl⟩
              rfl
        | cons sign others =>
            constructor
            · intro same
              cases same
            · rintro ⟨_, _, ⟨⟩, ends, -⟩
              cases behind.symm.trans ends

end Brackets

/-- A list is read back if its items are. -/
theorem readsBack_list {items : List Json} (legible : ∀ item ∈ items, Legible item)
    (reads : ∀ item ∈ items, ReadsBack layout item) : ReadsBack layout (.list items) := by
  intro depth steps rest _ enough
  by_cases none : items = []
  · subst none
    cases steps with
    | zero => cases enough
    | succ steps => rfl
  rw [writeAt_list none] at enough ⊢
  simp only [List.length_cons, List.length_append] at enough
  cases steps with
  | zero => omega
  | succ steps =>
      have blank {depth : Nat} : ∀ sign ∈ layout.lineStart depth, isSeparator sign = true :=
        fun _ => Layout.isSeparator_of_mem_lineStart
      have inner : skip (layout.lineStart (depth + 1) ++ (writeItems layout (depth + 1) items ++
          (layout.lineStart depth ++ Sign.rightBracket :: rest))) =
          writeItems layout (depth + 1) items ++
            (layout.lineStart depth ++ Sign.rightBracket :: rest) :=
        (skip_append blank _).trans (skip_writeItems none legible layout (depth + 1) _)
      have elements : readElements steps (writeItems layout (depth + 1) items ++
          (layout.lineStart depth ++ Sign.rightBracket :: rest)) = .ok (items, rest) :=
        readElements_writeItems rest none legible reads blank (by omega)
      simp only [List.cons_append, List.append_assoc, List.nil_append]
      rw [readValue_leftBracket, inner, elements]
      · rfl
      · -- the first item is no closing bracket
        obtain ⟨item, member, behind, begins⟩ := exists_writeItems_eq none layout (depth + 1)
        obtain ⟨sign, tail, written, first⟩ :=
          (legible item member).exists_writeAt_eq layout (depth + 1)
        simp only [opens, Bool.and_eq_true, bne_iff_ne] at first
        rw [inner, begins, written]
        intro others same
        exact first.1.2 (List.cons.inj same).1

/-- An object is read back if its fields are. -/
theorem readsBack_object {fields : List (Text × Json)} (distinct : (fields.map Prod.fst).Nodup)
    (named : ∀ name ∈ fields.map Prod.fst, Text.IsScalar name)
    (legible : ∀ field ∈ fields, Legible field.2)
    (reads : ∀ field ∈ fields, ReadsBack layout field.2) : ReadsBack layout (.object fields) := by
  intro depth steps rest _ enough
  by_cases none : fields = []
  · subst none
    cases steps with
    | zero => cases enough
    | succ steps => rfl
  rw [writeAt_object none] at enough ⊢
  simp only [List.length_cons, List.length_append] at enough
  cases steps with
  | zero => omega
  | succ steps =>
      have blank {depth : Nat} : ∀ sign ∈ layout.lineStart depth, isSeparator sign = true :=
        fun _ => Layout.isSeparator_of_mem_lineStart
      have inner : skip (layout.lineStart (depth + 1) ++ (writeFields layout (depth + 1) fields ++
          (layout.lineStart depth ++ Sign.rightBrace :: rest))) =
          writeFields layout (depth + 1) fields ++
            (layout.lineStart depth ++ Sign.rightBrace :: rest) :=
        (skip_append blank _).trans (skip_writeFields none layout (depth + 1) _)
      have members : readMembers steps [] (writeFields layout (depth + 1) fields ++
          (layout.lineStart depth ++ Sign.rightBrace :: rest)) = .ok (fields, rest) :=
        @readMembers_writeFields layout (depth + 1) _ rest fields [] none distinct named legible
          reads blank steps (by omega)
      simp only [List.cons_append, List.append_assoc, List.nil_append]
      rw [readValue_leftBrace, inner, members]
      · rfl
      · obtain ⟨tail, begins⟩ := exists_writeFields_eq none layout (depth + 1)
        rw [inner, begins]
        intro others same
        cases same

/-- A value that is legible is read back wherever it is written. -/
theorem Legible.readsBack {value : Json} (legible : Legible value) (layout : Layout) :
    ReadsBack layout value := by
  have spelled (word : Text) {value : Json} (keyword : (word, value) ∈ keywords)
      (written : ∀ depth, writeAt layout depth value = word) (some : 0 < word.length) :
      ReadsBack layout value := by
    intro depth steps rest _ enough
    rw [written] at enough ⊢
    cases steps with
    | zero => omega
    | succ steps => exact readValue_word keyword steps rest
  induction legible with
  | null => exact spelled "null" (by simp [keywords]) (fun _ => by rw [writeAt]) (by decide)
  | bool value =>
      cases value with
      | false => exact spelled "false" (by simp [keywords]) (fun _ => by rw [writeAt]) (by decide)
      | true => exact spelled "true" (by simp [keywords]) (fun _ => by rw [writeAt]) (by decide)
  | @int number short =>
      intro depth steps rest closed enough
      obtain ⟨sign, others, written, -⟩ := (Legible.int short).exists_writeAt_eq layout depth
      cases steps with
      | zero =>
          rw [written] at enough
          cases enough
      | succ steps =>
          rw [writeAt]
          exact closed.readValue_ofInt steps short
  | @text value scalar =>
      intro depth steps rest _ enough
      have long := length_le_writeText value
      rw [writeAt] at enough ⊢
      cases steps with
      | zero => omega
      | succ steps =>
          rw [writeText_append, readValue, readText_written scalar _ (by omega)]
          rfl
  | list legible ih => exact readsBack_list legible ih
  | object distinct named legible ih => exact readsBack_object distinct named legible ih

/-- A value that is legible is read back from its written form. -/
theorem read_write {value : Json} (legible : Legible value) (layout : Layout) :
    read (write layout value) = .ok value := by
  have whole := legible.readsBack layout 0 (2 * (writeAt layout 0 value).length + 2) [] closed_nil
    (by omega)
  have begins := legible.skip_writeAt layout 0 []
  rw [List.append_nil] at whole begins
  obtain ⟨sign, others, written, first⟩ := legible.exists_writeAt_eq layout 0
  simp only [opens, Bool.and_eq_true, bne_iff_ne] at first
  rw [write, read.eq_def]
  split
  · rename_i mark
    rw [written] at mark
    exact absurd (List.cons.inj mark).1 first.2
  · rw [begins, whole]
    rfl

end Json

end Coursework
