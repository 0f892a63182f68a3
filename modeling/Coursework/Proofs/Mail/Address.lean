import Coursework.Mail.Address
import Coursework.Proofs.Mail.Word

/-! # Reading ordinary addresses

An ordinary address is two rows of words with an at sign between them. As long as no encoded word
begins in it, it is read as one mailbox without a name, and means what it says.

* **`Mail.joined`** is such an address, **`Mail.joinedSpec`** how it is read.
* **`Mail.run_addressList_joined`** reads it, **`Mail.addresses_joined`** tells what it means. -/

namespace Coursework.Mail

open Reader

/-! ## (1) Addresses -/

/-- Two rows of words with an at sign between them. -/
def joined (user host : List Text) : Text := row user ++ Sign.atSign :: row host

/-- How they are read. -/
def joinedSpec (user host : List Text) : Piece :=
  .node .addrSpec
    [.node .localPart [.node .dotAtom [.node .plain (dotted user)]], .sign Sign.atSign,
      .node .domain [.node .dotAtom [.node .plain (dotted host)]]]

section Joined

variable {user host : List Text} (isUser : IsRow user) (isHost : IsRow host)

theorem IsRow.exists_cons {words : List Text} (isRow : IsRow words) (rest : Text) :
    ∃ sign others, row words ++ rest = sign :: others ∧ endsAtom sign = false := by
  obtain ⟨word, others, rfl⟩ := List.exists_cons_of_ne_nil isRow.1
  obtain ⟨sign, behind, rfl, h⟩ := (isRow.2 word List.mem_cons_self).exists_cons
  rw [row_cons]
  exact ⟨sign, _, rfl, h⟩

theorem run_blanks?_of_not_endsAtom {sign : Nat} (h : endsAtom sign = false) (rest : Text) :
    blanks?.run (sign :: rest) = .ok ([], sign :: rest) :=
  run_when_false (opensBlank_of_not_endsAtom h)

include isUser

theorem IsRow.run_localPart {rest : Text}
    (frameless : Frameless (row user ++ Sign.atSign :: rest)) :
    localPart.run (row user ++ Sign.atSign :: rest) =
      .ok (.node .localPart [.node .dotAtom [.node .plain (dotted user)]],
        Sign.atSign :: rest) := by
  have stops : StopsWord (Sign.atSign :: rest) := stopsWord_cons (by decide) (by decide) rest
  have read : (dotAtom.orElse (Mail.word.orElse do
      if ← isNext continuesPart then return .node .plain [] else mismatch)).run
        (row user ++ Sign.atSign :: rest) =
      .ok (.node .dotAtom [.node .plain (dotted user)], Sign.atSign :: rest) :=
    run_orElse_ok (run_dotAtom stops rfl isUser frameless)
  obtain ⟨sign, others, h, solid⟩ := isUser.exists_cons (Sign.atSign :: rest)
  rw [h] at read ⊢
  have filled : (do if (← get).isEmpty then mismatch : Reader Unit).run (sign :: others) =
      .ok ((), sign :: others) := rfl
  rw [localPart, run_bind_ok (run_next _ _), run_bind_ok (run_blanks?_of_not_endsAtom solid _),
    run_bind_ok filled, run_bind_ok read]
  rfl

omit isUser

include isHost

theorem IsRow.run_domain (frameless : Frameless (row host)) :
    domain.run (row host) =
      .ok (.node .domain [.node .dotAtom [.node .plain (dotted host)]], []) := by
  have read := run_dotAtom stopsWord_nil rfl isHost (by rwa [List.append_nil])
  obtain ⟨sign, others, h, solid⟩ := isHost.exists_cons []
  rw [h] at read
  rw [List.append_nil] at h
  rw [h, domain, run_bind_ok (run_next _ _), run_bind_ok (run_blanks?_of_not_endsAtom solid _),
    run_bind_ok (run_peek _)]
  dsimp only [List.head?_cons]
  rw [if_neg (ne_of_not_endsAtom solid (by decide)), run_bind_ok (run_orElse_ok read)]
  rfl

include isUser

variable (frameless : Frameless (joined user host))

include frameless

theorem run_addrSpec : addrSpec.run (joined user host) = .ok (joinedSpec user host, []) := by
  have behind : row host <:+: joined user host :=
    ((List.suffix_cons _ _).trans (List.suffix_append _ _)).isInfix
  rw [joined, addrSpec, run_bind_ok (isUser.run_localPart frameless),
    run_bind_ok (run_isNext _ _), List.head?_cons, Option.any_some, if_pos (by decide),
    run_bind_ok (run_skip _ _),
    run_bind_ok (isHost.run_domain (frameless.of_isInfix behind))]
  rfl

omit isHost

/-- It is no name with an address in angle brackets. -/
theorem run_nameAddr : nameAddr.run (joined user host) = .error .mismatch := by
  obtain ⟨word, parts, name⟩ := exists_run_phrase
    (stopsWord_cons (by decide) (by decide) (row host)) rfl isUser frameless
  obtain ⟨sign, others, h, solid⟩ := isUser.exists_cons (Sign.atSign :: row host)
  rw [h] at name
  rw [joined, h, nameAddr, run_bind_ok (run_next _ _),
    run_bind_ok (run_blanks?_of_not_endsAtom solid _), run_bind_ok (run_peek _)]
  dsimp only [List.head?_cons]
  rw [if_neg (ne_of_not_endsAtom solid (by decide)), endsPhrase_of_not_endsAtom solid,
    if_neg Bool.false_ne_true, run_bind_ok name]
  rfl

/-- It is no group. -/
theorem run_group : group.run (joined user host) = .error .mismatch := by
  obtain ⟨word, parts, name⟩ := exists_run_phrase
    (stopsWord_cons (by decide) (by decide) (row host)) rfl isUser frameless
  rw [joined, group, run_bind_ok name]
  rfl

end Joined

theorem anyOpen_dotted (words : List Text) : Piece.anyOpen (dotted words) = false := by
  fun_induction dotted words with
  | case1 => rfl
  | case2 word => rfl
  | case3 word next words ih =>
      simp only [Piece.anyOpen, Piece.isOpen, dot, ih]
      rfl

theorem isOpen_joinedSpec (user host : List Text) : (joinedSpec user host).isOpen = false := by
  simp [joinedSpec, Piece.isOpen, Piece.anyOpen, Piece.sign, anyOpen_dotted]

/-! ## (2) Lists of one address -/

/-- An entry of a list and what stands up to the next. -/
def entryStep (entry : Reader Piece) (ends stops : Nat → Bool) : Reader (Option (List Piece)) := do
  match ← peek with
  | none => return none
  | some sign =>
    if stops sign then return none
    else
      let here ← entryOrElse entry ends
      let here ←
        if ← isNext fun sign => !ends sign then
          pure (overrun (← invalidMailbox ends).parts here)
        else pure here
      let comma ← when (· == Sign.comma) (do skip; return Piece.sign Sign.comma)
      return some (here ++ comma)

theorem entries_eq (entry : Reader Piece) (ends stops : Nat → Bool) :
    entries entry ends stops = (do
      let parts ← many (entryStep entry ends stops)
      return parts.flatten) := rfl

/-- A text that is one entry to its end is a list of that entry. -/
theorem run_addressList {text : Text} {piece : Piece} (filled : text ≠ [])
    (read : (group.orElse mailbox).run text = .ok (piece, [])) :
    addressList.run text = .ok ([asAddress piece], []) := by
  have whole : (do return [← group.orElse mailbox] : Reader (List Piece)).run text =
      .ok ([piece], []) := run_bind_ok read
  have steps : Steps (entryStep (group.orElse mailbox) (· == Sign.comma) fun _ => false) text
      [[piece]] [] := by
    have shorter : ([] : Text).length < text.length := List.length_pos_iff.mpr filled
    -- nothing is left that could be an invalid mailbox behind the entry, nor another entry
    refine .more ?_ shorter (.done rfl)
    obtain ⟨sign, others, rfl⟩ := List.exists_cons_of_ne_nil filled
    rw [entryStep, run_bind_ok (run_peek _)]
    dsimp only [List.head?_cons]
    rw [if_neg Bool.false_ne_true, entryOrElse, run_bind_ok (run_orElse_ok whole)]
    rfl
  rw [addressList, entries_eq, bind_assoc, run_bind_ok steps.run_many]
  rfl

/-! ## (3) What ordinary addresses mean -/

theorem valueAll_dotted (words : List Text) : Piece.valueAll (dotted words) = row words := by
  fun_induction dotted words with
  | case1 => rfl
  | case2 word => simp [Piece.valueAll, Piece.value, row_singleton]
  | case3 word next words ih =>
      rw [row_cons_cons, ← ih]
      simp [Piece.valueAll, Piece.value, dot]

theorem writtenAll_dotted (words : List Text) : Piece.writtenAll (dotted words) = row words := by
  fun_induction dotted words with
  | case1 => rfl
  | case2 word => simp [Piece.writtenAll, Piece.written, row_singleton]
  | case3 word next words ih =>
      rw [row_cons_cons, ← ih]
      simp [Piece.writtenAll, Piece.written, dot]

theorem written_joinedSpec (user host : List Text) :
    (joinedSpec user host).written = joined user host := by
  simp [joinedSpec, Piece.written, Piece.writtenAll, Piece.sign, writtenAll_dotted, joined]

/-- A row of words has no blank at its end. -/
theorem exists_getLast?_dotted {words : List Text} (filled : words ≠ []) :
    ∃ word, (dotted words).getLast? = some (.leaf .word word) := by
  fun_induction dotted words with
  | case1 => exact absurd rfl filled
  | case2 word => exact ⟨word, rfl⟩
  | case3 word next words ih =>
      obtain ⟨last, h⟩ := ih (List.cons_ne_nil _ _)
      refine ⟨last, ?_⟩
      rw [List.getLast?_cons, List.getLast?_cons, h]
      rfl

theorem exists_dotted_eq_cons {words : List Text} (filled : words ≠ []) :
    ∃ word parts, dotted words = .leaf .word word :: parts := by
  fun_cases dotted words with
  | case1 => exact absurd rfl filled
  | case2 word => exact ⟨_, _, rfl⟩
  | case3 word next words => exact ⟨_, _, rfl⟩

/-- A row of words is the local part that it is written as. -/
theorem localValue_dotted {words : List Text} (filled : words ≠ []) :
    localValue (.node .localPart [.node .dotAtom [.node .plain (dotted words)]]) =
      .ok (row words) := by
  obtain ⟨word, parts, first⟩ := exists_dotted_eq_cons filled
  obtain ⟨last, hlast⟩ := exists_getLast?_dotted filled
  have behind : withoutBlanks (.node .plain (dotted words)) [] =
      .ok [.node .plain (dotted words)] := by
    rw [withoutBlanks, hlast]
    rfl
  have kept : withoutBlanks dot [.node .plain (dotted words)] =
      .ok [dot, .node .plain (dotted words)] := by
    have apart : withoutBlanks dot [.node .plain (dotted words)] =
        (dot :: ·) <$> withoutBlanks (.node .plain (dotted words)) [] := by
      rw [first]
      rfl
    rw [apart, behind]
    rfl
  rw [localValue, Piece.parts, kept]
  simp [Piece.valueAll, Piece.value, valueAll_dotted]

theorem domainValue_dotted (words : List Text) :
    domainValue (.node .domain [.node .dotAtom [.node .plain (dotted words)]]) =
      (row words).filter (! Sign.isBlank ·) := by
  simp [domainValue, Piece.value, Piece.valueAll, valueAll_dotted]

/-- The address that two rows of words mean. -/
def joinedAddress (user host : List Text) : Address where
  user := row user
  domain := (row host).filter (! Sign.isBlank ·)

section Meaning

variable {user host : List Text} (isUser : IsRow user) (isHost : IsRow host)

theorem ofMailbox_joinedSpec (filled : user ≠ []) :
    Address.ofMailbox (.node .mailbox [joinedSpec user host]) = .ok (joinedAddress user host) := by
  have user := localValue_dotted filled
  have host := domainValue_dotted host
  rw [joinedSpec, Address.ofMailbox, Address.ofSpec, user, host]
  · rfl
  all_goals simp

variable (frameless : Frameless (joined user host))

include isUser isHost frameless

/-- Two rows of words are read as one mailbox. -/
theorem run_addressList_joined :
    addressList.run (joined user host) =
      .ok ([.node .address [.node .mailbox [joinedSpec user host]]], []) := by
  -- a name with brackets and a group are tried first
  have content := (run_orElse_mismatch (run_nameAddr isUser frameless)).trans
    (run_addrSpec isUser isHost frameless)
  have box : mailbox.run (joined user host) =
      .ok (.node .mailbox [joinedSpec user host], []) := by
    rw [mailbox, run_bind_ok content, isOpen_joinedSpec]
    rfl
  have filled : joined user host ≠ [] := by
    rw [joined]
    exact List.append_ne_nil_of_right_ne_nil _ (List.cons_ne_nil _ _)
  exact run_addressList filled ((run_orElse_mismatch (run_group isUser frameless)).trans box)

/-- They mean what they say. -/
theorem addresses_joined (oneLine : ∀ sign ∈ joined user host, sign ≠ Sign.newline ∧
    sign ≠ Sign.carriageReturn) :
    addresses (joined user host) =
      .ok ([.node .address [.node .mailbox [joinedSpec user host]]],
        [{ members := [joinedAddress user host] }]) := by
  have mailbox : Address.ofMailbox (.node .mailbox [joinedSpec user host]) =
      .ok (joinedAddress user host) := ofMailbox_joinedSpec isUser.1
  have checked : (joinedAddress user host).checked = .ok (joinedAddress user host) := by
    refine if_neg fun broken => ?_
    obtain ⟨sign, member, broken⟩ := List.any_eq_true.mp broken
    have here : sign ∈ joined user host := by
      rw [joined, List.mem_append, List.mem_cons]
      rcases List.mem_append.mp member with h | h
      · exact .inl h
      · exact .inr (.inr (List.mem_of_mem_filter h))
    simp [oneLine sign here] at broken
  have members : addressesOf [.node .mailbox [joinedSpec user host]] =
      .ok [joinedAddress user host] := by
    rw [addressesOf, mailbox]
    change (do
      let first ← (joinedAddress user host).checked
      return first :: (← addressesOf [])) = _
    rw [checked]
    rfl
  have entry : Entry.ofPiece (.node .address [.node .mailbox [joinedSpec user host]]) =
      .ok { members := [joinedAddress user host] } := by
    rw [Entry.ofPiece, members]
    · rfl
    · simp
  rw [addresses, run_addressList_joined isUser isHost frameless]
  change (do return (_, ← entriesOf _)) = _
  rw [entriesOf, isAddress, if_pos rfl, entry]
  rfl

end Meaning

end Coursework.Mail
