import Coursework.Form.Mailbox
import Coursework.Proofs.Json.Literal
import Coursework.Proofs.Outcome

/-! # The signs of a mailbox in normal form

A sign that is not printable has no place in either part of a mailbox, so a mailbox has an encoded
form.

* **`Mailbox.hasSurrogate_read`** is the statement, **`Form.hasSurrogate_mailbox`** that of the
  form.
* **`Mailbox.checkSafe_of_ascii`**: ASCII signs other than the space and the controls have a place
  in both parts. -/

namespace Coursework

namespace Mailbox

/-! ## (1) The part before the at-sign -/

/-- A text without unsafe signs is printable. -/
theorem isPrintable_of_checkSafe {text : Text} (safe : checkSafe false text = .ok ()) :
    ∀ sign ∈ text, Sign.isPrintable sign = true := by
  rw [checkSafe] at safe
  split at safe
  · rename_i none
    intro sign member
    have := List.filter_eq_nil_iff.mp none sign member
    simp [Sign.isUnsafe] at this
    exact this.2
  · cases safe

theorem hasSurrogate_of_checkSafe {text : Text} (safe : checkSafe false text = .ok ()) :
    text.hasSurrogate = false :=
  Text.hasSurrogate_eq_false_iff.mpr fun sign member =>
    Sign.isSurrogate_of_isPrintable (isPrintable_of_checkSafe safe sign member)

/-- The signs of an atom are ASCII. -/
theorem lt_of_isAtom {sign : Nat} (atom : Sign.isAtom sign = true) : sign < 0x80 := by
  rw [Sign.isAtom, Bool.or_eq_true] at atom
  rcases atom with letter | other
  · simp only [Sign.isAlphanumeric, Sign.isLetter, Sign.isUpper, Sign.isLower, Sign.isDigit,
      Bool.or_eq_true, Bool.and_eq_true, decide_eq_true_eq] at letter
    omega
  · obtain ⟨found, member, same⟩ := List.any_eq_true.mp other
    have below : ∀ sign ∈ Text.ofString "_!#$%&'*+-/=?^`\x7b|\x7d~", sign < 0x80 := by decide
    rw [← beq_iff_eq.mp same]
    exact below found member

/-- Every sign of a dotted text is a full stop or in an atom. -/
theorem of_isDotted {atom : Nat → Bool} {text : Text} (dotted : isDotted atom text = true)
    {sign : Nat} (member : sign ∈ text) : sign = Sign.fullStop ∨ atom sign = true := by
  rw [← Text.joinWith_splitAt Sign.fullStop text] at member
  rcases Text.mem_joinWith member with h | ⟨piece, hpiece, h⟩
  · exact .inl (List.mem_singleton.mp h)
  · have atoms := List.all_eq_true.mp dotted piece hpiece
    rw [Bool.and_eq_true] at atoms
    exact .inr (List.all_eq_true.mp atoms.2 sign h)

theorem hasSurrogate_lowerCommon {text : Text} (below : ∀ sign ∈ text, sign < 0x80) :
    (lowerCommon text).hasSurrogate = false := by
  have small : ∀ sign ∈ text.map Sign.lower, sign < 0xD800 := by
    intro sign member
    obtain ⟨other, h, rfl⟩ := List.mem_map.mp member
    have := below other h
    rw [Sign.lower]
    split <;> omega
  rw [lowerCommon]
  split
  · exact Text.hasSurrogate_of_forall_lt small
  · exact Text.hasSurrogate_of_forall_lt fun sign h => Nat.lt_trans (below sign h) (by decide)

/-- A part that is read is dotted, and its signs are those of atoms or safe. -/
theorem readLocal_cases {part : Text} {isQuoted : Bool} {read : Local}
    (h : readLocal part isQuoted = .ok read) :
    isDotted Sign.isAtom part = true ∧ read.text = lowerCommon part ∨
      isDotted (fun sign => Sign.isAtom sign || Sign.isWide sign) part = true ∧
        checkSafe false part = .ok () ∧ read.text = part := by
  rw [readLocal, Outcome.unless_eq_ok_iff] at h
  obtain ⟨-, h⟩ := h
  split at h
  · rename_i dotted
    obtain ⟨-, h⟩ := Outcome.unless_eq_ok_iff.mp h
    obtain rfl := Except.ok.inj h
    exact .inl ⟨dotted, rfl⟩
  · split at h
    · rename_i dotted
      obtain ⟨⟨⟩, safe, h⟩ := Outcome.bind_eq_ok_iff.mp h
      obtain ⟨-, h⟩ := Outcome.unless_eq_ok_iff.mp h
      obtain rfl := Except.ok.inj h
      exact .inr ⟨dotted, safe, rfl⟩
    -- a part that is not dotted is looked at for the words of its refusal only
    · dsimp only at h
      split at h
      · split at h
        · obtain ⟨_, -, h⟩ := Outcome.bind_eq_ok_iff.mp h
          cases h
        · cases h
      · split at h
        · split at h
          · cases h
          · split at h <;> cases h
        · cases h

theorem hasSurrogate_readLocal {part : Text} {isQuoted : Bool} {read : Local}
    (h : readLocal part isQuoted = .ok read) : read.text.hasSurrogate = false := by
  rcases readLocal_cases h with ⟨dotted, same⟩ | ⟨-, safe, same⟩ <;> rw [same]
  · refine hasSurrogate_lowerCommon fun sign member => ?_
    rcases of_isDotted dotted member with rfl | atom
    · decide
    · exact lt_of_isAtom atom
  · exact hasSurrogate_of_checkSafe safe

/-! ## (2) The part after it -/

theorem isSurrogate_of_isLabelSign {sign : Nat} (h : isLabelSign sign = true) :
    Sign.isSurrogate sign = false := by
  rw [isLabelSign, Bool.or_eq_true, Bool.or_eq_true, Bool.or_eq_true, Bool.and_eq_true,
    Bool.and_eq_true, Bool.and_eq_true] at h
  rcases h with ((lower | digit) | hyphen) | ⟨⟨⟨-, printable⟩, -⟩, -⟩
  · exact Text.isSurrogate_of_lt (by simp [Sign.isLower] at lower; omega)
  · exact Text.isSurrogate_of_lt (by simp [Sign.isDigit] at digit; omega)
  · obtain rfl := beq_iff_eq.mp hyphen
    decide
  · exact Sign.isSurrogate_of_isPrintable printable

/-- A label that a host can have is made of the signs of labels. -/
theorem isLabelSign_of_checkLabel {label : Text} (h : checkLabel label = .ok ()) :
    ∀ sign ∈ label, isLabelSign sign = true := by
  rw [checkLabel] at h
  split at h
  · cases h
  · split at h
    · cases h
    · rename_i none
      intro sign member
      obtain ⟨index, entry⟩ := List.getElem?_of_mem member
      have fits := List.find?_eq_none.mp none _ (List.mk_add_mem_zipIdx_iff_getElem?.mpr entry)
      simpa using fits

/-- A label that is shown is one that a host can have: the label itself, or what it stands for. -/
theorem shownLabel_cases {label shown : Text} (h : shownLabel label = .ok shown) :
    checkLabel shown = .ok () ∧ (shown = label ∨ ∃ content : Text, content ≠ [] ∧
      content.endsWith "-" = false ∧ Punycode.decode? content = some shown) := by
  rw [shownLabel] at h
  split at h
  · cases h
  · rename_i content filled _
    split at h
    · cases h
    · rename_i ends
      split at h
      · rename_i decoded
        obtain ⟨_, checked, rfl⟩ := Outcome.map_eq_ok_iff.mp h
        exact ⟨checked, .inr ⟨content, filled, Bool.not_eq_true _ ▸ ends, decoded⟩⟩
      · cases h
  · obtain ⟨_, checked, rfl⟩ := Outcome.map_eq_ok_iff.mp h
    exact ⟨checked, .inl rfl⟩

theorem hasSurrogate_shownLabel {label shown : Text} (h : shownLabel label = .ok shown) :
    shown.hasSurrogate = false :=
  Text.hasSurrogate_eq_false_iff.mpr fun sign member =>
    isSurrogate_of_isLabelSign (isLabelSign_of_checkLabel (shownLabel_cases h).1 sign member)

theorem hasSurrogate_readHost {given : Text} {host : Host} (h : readHost given = .ok host) :
    host.shown.hasSurrogate = false := by
  simp only [readHost, Outcome.bind_eq_ok_iff, Outcome.unless_eq_ok_iff] at h
  obtain ⟨_, -, _, -, _, -, _, -, -, written, -, _, -, _, -, h⟩ := h
  split at h
  · cases h
  · rename_i labels shown
    obtain rfl := Except.ok.inj h
    refine Text.hasSurrogate_joinWith (by decide) fun label member => ?_
    obtain ⟨_, -, one⟩ := Outcome.exists_of_mem_mapM shown label member
    exact hasSurrogate_shownLabel one

/-- A host in brackets is always refused. -/
theorem refuseBracketed_ne_ok (content : Text) (host : Host) :
    refuseBracketed content ≠ .ok host := by
  intro h
  rw [refuseBracketed] at h
  split at h
  · split at h <;> cases h
  · split at h
    · split at h <;> cases h
    · split at h
      · cases h
      · split at h <;> cases h

/-! ## (3) The mailbox -/

/-- A mailbox is put together of its two parts. -/
theorem exists_of_readPlain {given mailbox : Text} (h : readPlain given = .ok mailbox) :
    ∃ part isQuoted read after host, readLocal part isQuoted = .ok read ∧
      readHost after = .ok host ∧ mailbox = read.text ++ Sign.atSign :: host.shown := by
  rw [readPlain] at h
  obtain ⟨parts, -, h⟩ := Outcome.bind_eq_ok_iff.mp h
  -- What follows is the same, whether a name stands before the parts or not.
  split at h
  all_goals
    obtain ⟨⟨before, after⟩, -, h⟩ := Outcome.bind_eq_ok_iff.mp h
    obtain ⟨⟨part, isQuoted⟩, -, h⟩ := Outcome.bind_eq_ok_iff.mp h
    obtain ⟨read, hlocal, h⟩ := Outcome.bind_eq_ok_iff.mp h
    obtain ⟨-, h⟩ := Outcome.unless_eq_ok_iff.mp h
    dsimp only at h
    split at h
    · split at h
      · obtain ⟨host, refused, -⟩ := Outcome.bind_eq_ok_iff.mp h
        exact absurd refused (refuseBracketed_ne_ok _ host)
      · obtain ⟨host, hafter, h⟩ := Outcome.bind_eq_ok_iff.mp h
        obtain ⟨_, -, h⟩ := Outcome.bind_eq_ok_iff.mp h
        exact ⟨part, isQuoted, read, _, host, hlocal, hafter, (Except.ok.inj h).symm⟩
    · obtain ⟨host, hafter, h⟩ := Outcome.bind_eq_ok_iff.mp h
      obtain ⟨_, -, h⟩ := Outcome.bind_eq_ok_iff.mp h
      exact ⟨part, isQuoted, read, _, host, hlocal, hafter, (Except.ok.inj h).symm⟩

/-- A mailbox in normal form has no surrogate. -/
theorem hasSurrogate_read {given mailbox : Text} (h : read given = .ok mailbox) :
    mailbox.hasSurrogate = false := by
  rw [read] at h
  split at h
  · cases h
  · split at h
    · cases h
    · obtain ⟨_, _, read, _, host, before, after, rfl⟩ := exists_of_readPlain h
      rw [Text.hasSurrogate_append, Text.hasSurrogate_cons_of_lt (by decide),
        hasSurrogate_readLocal before, hasSurrogate_readHost after]
      rfl

/-! ## (4) Safe signs -/

/-- The ASCII signs from the space to the tilde are printable. -/
theorem isPrintable_of_ascii {sign : Nat} (least : 0x20 ≤ sign) (most : sign ≤ 0x7E) :
    Sign.isPrintable sign = true := by
  have gaps : ∀ gap ∈ Sign.unprintable, gap.2 < 0x20 ∨ 0x7E < gap.1 := by
    simp only [← Array.mem_toList_iff]
    decide +kernel
  rw [Sign.isPrintable, Bool.and_eq_true, decide_eq_true_eq, Bool.not_eq_true', Array.any_eq_false']
  refine ⟨by omega, fun gap member => ?_⟩
  have := gaps gap member
  simp only [Bool.and_eq_true, decide_eq_true_eq]
  omega

/-- All but the space are safe. -/
theorem checkSafe_of_ascii {text : Text} (ascii : ∀ sign ∈ text, 0x21 ≤ sign ∧ sign ≤ 0x7E)
    (spaceAllowed : Bool) : checkSafe spaceAllowed text = .ok () := by
  have safe : text.filter (Sign.isUnsafe spaceAllowed) = [] := by
    refine List.filter_eq_nil_iff.mpr fun sign member => ?_
    obtain ⟨least, most⟩ := ascii sign member
    have other : sign ≠ Sign.space := by
      rintro rfl
      exact absurd least (by decide)
    simp [Sign.isUnsafe, isPrintable_of_ascii (by omega) most, other]
  rw [checkSafe, safe]

/-- So a short host name is read as it is. -/
theorem readHost_short : readHost "b.co" = .ok ⟨"b.co", "b.co"⟩ := by
  have signs : checkHostSigns .hostSigns "b.co" = .ok () := by decide
  have safe := @checkSafe_of_ascii "b.co" (by decide) false
  have name : List.map normalSign (Text.ofString "b.co") = Text.ofString "b.co" := by
    decide +kernel
  have again : checkHostSigns .normalisedHostSigns "b.co" = .ok () := by decide
  have joints : checkJoints "b.co" = .ok () := by decide +kernel
  have written : writtenHost "b.co" = .ok "b.co" := by decide +kernel
  simp only [readHost, signs, safe, name, again, joints, written]
  decide +kernel

/-- So is a mailbox on that host. -/
theorem read_short : read "a@b.co" = .ok "a@b.co" := by
  have plain : read "a@b.co" = readPlain "a@b.co" := by
    rw [read, if_neg (by decide), if_neg (by decide)]
    exact congrArg readPlain (by decide +kernel)
  have parts : split (fun sign => sign == Sign.atSign || sign == Sign.lessThan) "a@b.co" =
      .ok ("a", "@b.co") := by decide +kernel
  have before : readLocal "a" false = .ok ⟨"a", true⟩ := by decide +kernel
  have within : checkLength "a@b.co" "a" ⟨"b.co", "b.co"⟩ = .ok () := by decide +kernel
  rw [plain, readPlain]
  refine Outcome.bind_eq_ok_iff.mpr ⟨_, parts, ?_⟩
  refine Outcome.bind_eq_ok_iff.mpr ⟨_, rfl, ?_⟩
  refine Outcome.bind_eq_ok_iff.mpr ⟨("a", false), rfl, ?_⟩
  refine Outcome.bind_eq_ok_iff.mpr ⟨_, before, ?_⟩
  refine Outcome.bind_eq_ok_iff.mpr ⟨_, readHost_short, ?_⟩
  exact Outcome.bind_eq_ok_iff.mpr ⟨(), within, rfl⟩

end Mailbox

/-- Nor has one that is given in a form. -/
theorem Form.hasSurrogate_mailbox {value : Json} {mailbox : Text}
    (h : Form.mailbox value = .ok mailbox) : mailbox.hasSurrogate = false := by
  obtain ⟨given, -, read⟩ := Outcome.bind_eq_ok_iff.mp h
  split at read
  · rename_i address found
    obtain rfl := Except.ok.inj read
    exact Mailbox.hasSurrogate_read found
  · cases read

end Coursework
