import Coursework.Proofs.Mail.Message
import Coursework.Proofs.Mailbox.Plain
import Coursework.Proofs.Text.Punycode

/-! # Mailboxes in normal form are ordinary addresses

Both parts of a mailbox in normal form are rows of words: the first is made of atoms, the second of
labels that were read, none of which is empty.

* **`Mailbox.isOrdinary_read`** is the statement, **`Form.isOrdinary_mailbox`** that of the form. -/

namespace Coursework

namespace Mailbox

open Mail (IsRow IsWord IsOrdinary)

/-! ## (1) Signs -/

/-- A sign that may stand in a word of an ordinary address. -/
structure Fits (sign : Nat) : Prop where
  /-- It does not end a word. -/
  inside : Mail.endsAtom sign = false
  /-- Nor does it end a line. -/
  oneLine : Mail.endsLine sign = false
  /-- It has an encoded form. -/
  scalar : Sign.isScalar sign = true

theorem fits_of_lt {sign : Nat} (below : sign < 0x80)
    (kind : Sign.isAtom sign = true ∨ isLabelSign sign = true) : Fits sign := by
  have signs : ∀ sign < 0x80, Sign.isAtom sign = true ∨ isLabelSign sign = true →
      Mail.endsAtom sign = false ∧ Mail.endsLine sign = false := by
    decide +kernel
  obtain ⟨inside, oneLine⟩ := signs sign below kind
  exact ⟨inside, oneLine, Text.isScalar_of_forall_lt (List.forall_mem_singleton.mpr below) sign
    List.mem_cons_self⟩

theorem fits_of_isAtom {sign : Nat} (atom : Sign.isAtom sign = true) : Fits sign :=
  fits_of_lt (lt_of_isAtom atom) (.inl atom)

/-- The signs with a meaning in addresses are ASCII, and the wide signs that end a line are not
printable. -/
theorem fits_of_isWide {sign : Nat} (wide : Sign.isWide sign = true)
    (printable : Sign.isPrintable sign = true) : Fits sign := by
  have above : 0x80 ≤ sign := of_decide_eq_true wide
  refine ⟨?_, ?_, ?_⟩
  · have ascii : ∀ special ∈ Text.ofString "()<>@,:;.\\\"[]", special < 0x80 := by decide
    rw [Mail.endsAtom, Mail.isSpecial, Mail.isGap, Bool.or_eq_false_iff, List.any_eq_false,
      Bool.or_eq_false_iff, decide_eq_false_iff_not, decide_eq_false_iff_not, Sign.space, Sign.tab]
    refine ⟨fun special member same => ?_, by omega, by omega⟩
    have := ascii special member
    rw [beq_iff_eq] at same
    omega
  · have unprintable : ∀ ending ∈ [0x85, 0x2028, 0x2029], Sign.isPrintable ending = false := by
      decide +kernel
    have other : ∀ ending ∈ [0x85, 0x2028, 0x2029], sign ≠ ending := by
      rintro _ member rfl
      rw [unprintable _ member] at printable
      cases printable
    simp only [List.forall_mem_cons] at other
    simp [Mail.endsLine, other]
    omega
  · rw [Sign.isScalar, Sign.isSurrogate_of_isPrintable printable]
    rw [Sign.isPrintable, Bool.and_eq_true] at printable
    rw [printable.1]
    rfl

theorem fits_of_isLabelSign {sign : Nat} (label : isLabelSign sign = true) : Fits sign := by
  by_cases below : sign < 0x80
  · exact fits_of_lt below (.inr label)
  · have wide : Sign.isWide sign = true := decide_eq_true (by omega)
    rw [isLabelSign, Bool.or_eq_true, Bool.or_eq_true, Bool.or_eq_true, Bool.and_eq_true,
      Bool.and_eq_true, Bool.and_eq_true] at label
    rcases label with ((lower | digit) | hyphen) | ⟨⟨⟨-, printable⟩, -⟩, -⟩
    · simp [Sign.isLower] at lower; omega
    · simp [Sign.isDigit] at digit; omega
    · rw [beq_iff_eq.mp hyphen] at below
      exact absurd (by decide) below
    · exact fits_of_isWide wide printable

/-! ## (2) Rows -/

/-- A row of words of such signs. -/
structure IsFitRow (words : List Text) : Prop where
  /-- There is a word. -/
  filled : words ≠ []
  /-- No word is empty. -/
  solid : ∀ word ∈ words, word ≠ []
  /-- The signs fit. -/
  fits : ∀ word ∈ words, ∀ sign ∈ word, Fits sign

theorem IsFitRow.isRow {words : List Text} (fit : IsFitRow words) : IsRow words :=
  ⟨fit.filled, fun word member =>
    ⟨fit.solid word member, fun sign inside => (fit.fits word member sign inside).inside⟩⟩

theorem IsFitRow.mem_row {words : List Text} (fit : IsFitRow words) {sign : Nat}
    (member : sign ∈ Mail.row words) :
    Mail.endsLine sign = false ∧ Sign.isScalar sign = true := by
  rcases Text.mem_joinWith member with stop | ⟨word, hword, inside⟩
  · rw [List.mem_singleton.mp stop]
    decide
  · exact ⟨(fit.fits word hword sign inside).oneLine, (fit.fits word hword sign inside).scalar⟩

/-- Two such rows are an ordinary address. -/
theorem isOrdinary_joined {user host : List Text} (isUser : IsFitRow user)
    (isHost : IsFitRow host) : IsOrdinary (Mail.joined user host) := by
  have signs : ∀ sign ∈ Mail.joined user host,
      Mail.endsLine sign = false ∧ Sign.isScalar sign = true := by
    intro sign member
    rcases List.mem_append.mp member with h | h
    · exact isUser.mem_row h
    · rcases List.mem_cons.mp h with rfl | h
      · decide
      · exact isHost.mem_row h
  exact ⟨⟨user, host, isUser.isRow, isHost.isRow, rfl⟩, fun sign h => (signs sign h).1,
    fun sign h => (signs sign h).2⟩

/-! ## (3) The part before the at-sign -/

/-- A dotted text is a row. -/
theorem isFitRow_of_isDotted {atom : Nat → Bool} {text : Text} (dotted : isDotted atom text = true)
    (fits : ∀ sign ∈ text, atom sign = true → Fits sign) :
    IsFitRow (Text.splitAt Sign.fullStop text) := by
  refine ⟨Text.splitAt_ne_nil _ _, fun word member => ?_, fun word member sign inside => ?_⟩ <;>
    have piece := List.all_eq_true.mp dotted word member <;>
    rw [Bool.and_eq_true] at piece
  · simpa using piece.1
  · exact fits sign (Text.mem_of_mem_splitAt member inside)
      (List.all_eq_true.mp piece.2 sign inside)

/-- So is one of the parts whose case has no meaning. -/
theorem isDotted_lowerCommon {text : Text} (dotted : isDotted Sign.isAtom text = true) :
    isDotted Sign.isAtom (lowerCommon text) = true := by
  have common : ∀ name ∈ commonNames, isDotted Sign.isAtom name = true := by decide +kernel
  rw [lowerCommon]
  split
  · rename_i found
    exact common _ (List.contains_iff_mem.mp found)
  · exact dotted

theorem exists_row_of_readLocal {part : Text} {isQuoted : Bool} {read : Local}
    (h : readLocal part isQuoted = .ok read) :
    ∃ words, IsFitRow words ∧ read.text = Mail.row words := by
  have row : ∀ text, text = Mail.row (Text.splitAt Sign.fullStop text) := fun text =>
    (Text.joinWith_splitAt Sign.fullStop text).symm
  rcases readLocal_cases h with ⟨dotted, same⟩ | ⟨dotted, safe, same⟩ <;> rw [same]
  · exact ⟨_, isFitRow_of_isDotted (isDotted_lowerCommon dotted) fun _ _ => fits_of_isAtom, row _⟩
  · refine ⟨_, isFitRow_of_isDotted dotted fun sign member kind => ?_, row _⟩
    rcases Bool.or_eq_true _ _ ▸ kind with atom | wide
    · exact fits_of_isAtom atom
    · exact fits_of_isWide wide (isPrintable_of_checkSafe safe sign member)

/-! ## (4) The part after it -/

/-- No label of a host name is empty whose joints were checked. -/
theorem ne_nil_of_checkJoints {name : Text} (filled : name ≠ [])
    (joints : checkJoints name = .ok ()) :
    ∀ label ∈ Text.splitAt Sign.fullStop name, label ≠ [] := by
  have stop : Text.ofString "." = [Sign.fullStop] := by decide
  have twice : Text.ofString ".." = [Sign.fullStop, Sign.fullStop] := by decide
  simp only [checkJoints, Outcome.unless_eq_ok_iff, stop, twice, Text.startsWith_singleton,
    Text.endsWith_singleton, beq_iff_eq] at joints
  obtain ⟨ends, starts, single, -⟩ := joints
  exact (Text.ne_nil_of_mem_tail_splitAt filled ends fun within =>
    single (Text.contains_of_isInfix within)).2 starts

/-- The written form of a label is a label. -/
theorem isLabel_writtenLabel {label written : Text} (h : writtenLabel label = .ok written)
    (solid : label ≠ []) (single : Sign.fullStop ∉ label) :
    written ≠ [] ∧ Sign.fullStop ∉ written := by
  rw [writtenLabel] at h
  split at h
  all_goals
    obtain ⟨_, form, h⟩ := Outcome.bind_eq_ok_iff.mp h
    obtain ⟨-, h⟩ := Outcome.unless_eq_ok_iff.mp h
    obtain rfl := Except.ok.inj h
    obtain ⟨_, -, rfl⟩ := Outcome.map_eq_ok_iff.mp form
  · exact ⟨solid, single⟩
  · refine ⟨List.append_ne_nil_of_left_ne_nil (by decide) _, ?_⟩
    rw [List.mem_append, not_or]
    exact ⟨by decide, Punycode.fullStop_not_mem_encode single⟩

/-- The written form of a host name has as many labels, none of which is empty. -/
theorem ne_nil_of_writtenHost {name written : Text} (h : writtenHost name = .ok written)
    (solid : ∀ label ∈ Text.splitAt Sign.fullStop name, label ≠ []) :
    ∀ label ∈ Text.splitAt Sign.fullStop written, label ≠ [] := by
  rw [writtenHost] at h
  split at h
  · obtain rfl := Except.ok.inj h
    exact solid
  · split at h
    · cases h
    · split at h
      · cases h
      · rename_i labels forms
        dsimp only at h
        split at h
        · cases h
        obtain rfl := Except.ok.inj h
        have isLabel : ∀ label ∈ labels, label ≠ [] ∧ Sign.fullStop ∉ label := by
          intro label member
          obtain ⟨source, inside, form⟩ := Outcome.exists_of_mem_mapM forms label member
          exact isLabel_writtenLabel form (solid source inside)
            (Text.not_mem_of_mem_splitAt inside)
        have joint : Text.ofString "." = [Sign.fullStop] := by decide
        rw [joint, Text.splitAt_joinWith
          (Outcome.ne_nil_of_mapM forms (Text.splitAt_ne_nil _ _)) fun label member =>
            (isLabel label member).2]
        exact fun label member => (isLabel label member).1

/-- A label that is shown is not empty. -/
theorem ne_nil_of_shownLabel {label shown : Text} (h : shownLabel label = .ok shown)
    (solid : label ≠ []) : shown ≠ [] := by
  rcases (shownLabel_cases h).2 with rfl | ⟨content, filled, ends, decoded⟩
  · exact solid
  · have hyphen : Text.ofString "-" = [Sign.hyphen] := by decide
    rw [hyphen, Text.endsWith_singleton, beq_eq_false_iff_ne] at ends
    exact Punycode.ne_nil_of_decode? filled ends decoded

theorem exists_row_of_readHost {given : Text} {host : Host} (h : readHost given = .ok host) :
    ∃ words, IsFitRow words ∧ host.shown = Mail.row words := by
  simp only [readHost, Outcome.bind_eq_ok_iff, Outcome.unless_eq_ok_iff] at h
  obtain ⟨_, -, _, -, _, -, ⟨⟩, joints, -, written, form, _, -, ⟨⟩, isPublic, h⟩ := h
  -- a name that is public has a full stop
  have filled : given.map normalSign ≠ [] := by
    intro none
    rw [none] at form
    obtain rfl := Except.ok.inj form
    cases isPublic
  have solid := ne_nil_of_writtenHost form (ne_nil_of_checkJoints filled joints)
  split at h
  · cases h
  · rename_i labels shown
    obtain rfl := Except.ok.inj h
    have joint : Text.ofString "." = [Sign.fullStop] := by decide
    refine ⟨labels, ⟨Outcome.ne_nil_of_mapM shown (Text.splitAt_ne_nil _ _), ?_, ?_⟩, ?_⟩
    · intro label member
      obtain ⟨source, inside, one⟩ := Outcome.exists_of_mem_mapM shown label member
      exact ne_nil_of_shownLabel one (solid source inside)
    · intro label member sign inside
      obtain ⟨_, -, one⟩ := Outcome.exists_of_mem_mapM shown label member
      exact fits_of_isLabelSign (isLabelSign_of_checkLabel (shownLabel_cases one).1 sign inside)
    · rw [Mail.row, ← joint]

/-! ## (5) The mailbox -/

/-- A mailbox in normal form is an ordinary address. -/
theorem isOrdinary_read {given mailbox : Text} (h : read given = .ok mailbox) :
    IsOrdinary mailbox := by
  rw [read] at h
  split at h
  · cases h
  · split at h
    · cases h
    · obtain ⟨_, _, read, _, host, before, after, rfl⟩ := exists_of_readPlain h
      obtain ⟨user, isUser, huser⟩ := exists_row_of_readLocal before
      obtain ⟨labels, isHost, hhost⟩ := exists_row_of_readHost after
      rw [huser, hhost]
      exact isOrdinary_joined isUser isHost

end Mailbox

/-- So is one that is given in a form. -/
theorem Form.isOrdinary_mailbox {value : Json} {mailbox : Text}
    (h : Form.mailbox value = .ok mailbox) : Mail.IsOrdinary mailbox := by
  obtain ⟨given, -, read⟩ := Outcome.bind_eq_ok_iff.mp h
  split at read
  · rename_i address found
    obtain rfl := Except.ok.inj read
    exact Mailbox.isOrdinary_read found
  · cases read

end Coursework
