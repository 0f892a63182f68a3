import Coursework.Mail.Message
import Coursework.Proofs.Mail.Address
import Coursework.Proofs.Mail.Folding
import Coursework.Proofs.Outcome

/-! # Messages that can be written

A message between ordinary addresses can be written unless its subject has several lines, as long
as no encoded word ends in what its header says.

* **`Mail.IsOrdinary`** are the addresses.
* **`Mail.Message.exists_raw_iff`** is the statement. -/

namespace Coursework.Mail

open EncodedWord (Endless)

/-! ## (1) Lines -/

/-- A text without line ends has one line. -/
theorem hasSeveralLines_of_forall {text : Text} (oneLine : ∀ sign ∈ text, endsLine sign = false) :
    hasSeveralLines text = false := by
  have none : text.dropWhile (! endsLine ·) = [] :=
    List.dropWhile_eq_nil_iff.mpr fun sign member => by rw [oneLine sign member]; rfl
  rw [hasSeveralLines, none]

/-- What has no line end does not matter before a text. -/
theorem hasSeveralLines_append {start : Text} (oneLine : ∀ sign ∈ start, endsLine sign = false)
    (text : Text) : hasSeveralLines (start ++ text) = hasSeveralLines text := by
  have passed : (start ++ text).dropWhile (! endsLine ·) = text.dropWhile (! endsLine ·) :=
    List.dropWhile_append_of_pos fun sign member => by rw [oneLine sign member]; rfl
  rw [hasSeveralLines, hasSeveralLines, passed]

theorem singleLine_eq_ok_iff {value text : Text} :
    singleLine value = .ok text ↔ hasSeveralLines value = false ∧ text = value := by
  rw [singleLine]
  cases hasSeveralLines value <;> simp [eq_comm]

/-! ## (2) Addresses -/

/-- An ordinary address: two rows of words with an at sign between them, on one line and without
surrogates. -/
structure IsOrdinary (address : Text) : Prop where
  /-- The words before the at sign and those behind it. -/
  rows : ∃ user host, IsRow user ∧ IsRow host ∧ address = joined user host
  /-- There is no line end. -/
  oneLine : ∀ sign ∈ address, endsLine sign = false
  /-- Every sign has an encoded form. -/
  scalar : Text.IsScalar address

theorem isScalar_quote {text : Text} (scalar : Text.IsScalar text) :
    Text.IsScalar (quote text) := by
  have mark : Text.IsScalar [Sign.doubleQuote] := Text.isScalar_of_forall_lt (by decide)
  have inner : Text.IsScalar (escaped (· == Sign.doubleQuote) text) := by
    intro sign member
    obtain ⟨own, hown, member⟩ := List.mem_flatMap.mp member
    split at member
    · rcases List.mem_cons.mp member with rfl | member
      · decide
      · rw [List.mem_singleton.mp member]
        exact scalar own hown
    · rw [List.mem_singleton.mp member]
      exact scalar own hown
  exact Text.isScalar_append.mpr ⟨Text.isScalar_append.mpr ⟨mark, inner⟩, mark⟩

/-- An address without a name is written with its own signs and ASCII. -/
theorem Address.isScalar_toText {address : Address} (unnamed : address.name = [])
    (user : Text.IsScalar address.user) (domain : Text.IsScalar address.domain) :
    Text.IsScalar address.toText := by
  have user : Text.IsScalar
      (if address.user.any toText.needsQuotes then quote address.user else address.user) := by
    split
    · exact isScalar_quote user
    · exact user
  have atSign : Sign.isScalar Sign.atSign = true := by decide
  rw [toText]
  generalize (if address.user.any toText.needsQuotes then quote address.user else address.user) =
    written at user ⊢
  simp only [unnamed, List.any_nil, Bool.false_eq_true, if_false, List.isEmpty_nil, if_true]
  split
  · exact Text.isScalar_append.mpr ⟨user, List.forall_mem_cons.mpr ⟨atSign, domain⟩⟩
  · split
    · exact Text.isScalar_of_forall_lt (by decide)
    · exact user

theorem isSimple_dotted {words : List Text} (isWord : ∀ word ∈ words, IsWord word)
    (scalar : Text.IsScalar (row words)) : ∀ piece ∈ dotted words, piece.IsSimple := by
  have leaf : ∀ word, IsWord word → Text.IsScalar word → (Piece.leaf .word word).IsSimple :=
    fun word isWord scalar => Piece.isSimple_word isWord.1 scalar fun sign member =>
      (Bool.or_eq_false_iff.mp (isWord.2 sign member)).2
  fun_induction dotted words with
  | case1 => exact List.forall_mem_nil _
  | case2 word =>
      exact List.forall_mem_singleton.mpr (leaf word (isWord word List.mem_cons_self) scalar)
  | case3 word next words ih =>
      rw [row_cons_cons, Text.isScalar_append] at scalar
      obtain ⟨first, others⟩ := List.forall_mem_cons.mp isWord
      have stop : dot.IsSimple := by
        rw [dot, Piece.IsSimple]
        exact ⟨.inr ⟨.inr rfl, by decide⟩, by decide, Text.isScalar_of_forall_lt (by decide)⟩
      rw [List.forall_mem_cons, List.forall_mem_cons]
      exact ⟨leaf word first scalar.1, stop,
        ih others (scalar.2.of_subset (List.subset_cons_self _ _))⟩

theorem dotted_ne_nil {words : List Text} (filled : words ≠ []) : dotted words ≠ [] := by
  obtain ⟨word, parts, h⟩ := exists_dotted_eq_cons filled
  rw [h]
  exact List.cons_ne_nil _ _

/-- An ordinary address is read as words and full stops. -/
theorem isSimple_joinedSpec {user host : List Text} (isUser : IsRow user) (isHost : IsRow host)
    (scalar : Text.IsScalar (joined user host)) : (joinedSpec user host).IsSimple := by
  obtain ⟨hscalar, dscalar⟩ := Text.isScalar_append.mp scalar
  have domain := dscalar.of_subset (List.subset_cons_self _ _)
  have atSign : (Piece.sign Sign.atSign).IsSimple := Piece.isSimple_word (by simp)
    (Text.isScalar_of_forall_lt (by decide)) (by decide)
  have part : ∀ (kind : Node) (words : List Text), kind ≠ .comment ∧ kind ≠ .quotation →
      IsRow words → Text.IsScalar (row words) →
      (Piece.node kind [.node .dotAtom [.node .plain (dotted words)]]).IsSimple :=
    fun kind words other isRow scalar =>
      Piece.isSimple_node other (List.cons_ne_nil _ _) (List.forall_mem_singleton.mpr
        (Piece.isSimple_node (by decide) (List.cons_ne_nil _ _) (List.forall_mem_singleton.mpr
          (Piece.isSimple_node (by decide) (dotted_ne_nil isRow.1)
            (isSimple_dotted isRow.2 scalar)))))
  refine Piece.isSimple_node (by decide) (List.cons_ne_nil _ _) ?_
  simp only [List.forall_mem_cons]
  exact ⟨part _ _ (by decide) isUser hscalar, atSign, part _ _ (by decide) isHost domain,
    List.forall_mem_nil _⟩

/-! ## (3) Fields -/

/-- The pieces of a field that is written whenever no encoded word ends in it. -/
structure IsField (text : Text) (pieces : List Piece) : Prop where
  /-- They are trees of words, full stops and white space. -/
  simple : ∀ piece ∈ pieces, piece.IsSimple
  /-- There are some. -/
  filled : pieces ≠ []
  /-- They are written as the text. -/
  whole : Piece.writtenAll pieces = text

theorem withMeaning_eq_ok {pieces : List Piece} {meaning : Text}
    (plain : meaning.hasSurrogate = false) : withMeaning pieces meaning = .ok pieces := by
  rw [withMeaning, Text.utf8Stray_eq_ok plain]
  rfl

/-- What two rows of words with an at sign between them are read as. -/
theorem addressField_joined {user host : List Text} (isUser : IsRow user) (isHost : IsRow host)
    (oneLine : ∀ sign ∈ joined user host, endsLine sign = false)
    (scalar : Text.IsScalar (joined user host)) (endless : Endless (joined user host)) :
    addressField (joined user host) =
      .ok [.node .address [.node .mailbox [joinedSpec user host]]] := by
  have single := singleLine_eq_ok_iff.mpr ⟨hasSeveralLines_of_forall oneLine, rfl⟩
  have read := addresses_joined isUser isHost (frameless_of_endless endless)
    fun sign member => by
      have := oneLine sign member
      constructor <;> rintro rfl <;> exact absurd this (by decide)
  obtain ⟨hscalar, dscalar⟩ := Text.isScalar_append.mp scalar
  have meaning : Text.IsScalar (joinedAddress user host).toText :=
    Address.isScalar_toText rfl hscalar (dscalar.of_subset
      (List.Subset.trans (List.filter_subset_self _) (List.subset_cons_self _ _)))
  rw [addressField, single]
  change ((addresses _).mapError Failure.header >>= _) = _
  rw [read]
  exact withMeaning_eq_ok meaning.hasSurrogate

/-- A field of an ordinary address. -/
theorem IsOrdinary.exists_addressField {address : Text} (ordinary : IsOrdinary address)
    (endless : Endless address) :
    ∃ pieces, addressField address = .ok pieces ∧ IsField address pieces := by
  obtain ⟨⟨user, host, isUser, isHost, rfl⟩, oneLine, scalar⟩ := ordinary
  refine ⟨_, addressField_joined isUser isHost oneLine scalar endless, ?_,
    List.cons_ne_nil _ _, ?_⟩
  · have spec := isSimple_joinedSpec isUser isHost scalar
    rw [List.forall_mem_singleton]
    exact Piece.isSimple_node (by decide) (List.cons_ne_nil _ _) (List.forall_mem_singleton.mpr
      (Piece.isSimple_node (by decide) (List.cons_ne_nil _ _) (List.forall_mem_singleton.mpr spec)))
  · simp [Piece.writtenAll, Piece.written, written_joinedSpec]

theorem isSimple_of_isToken {piece : Piece} (token : piece.IsToken)
    (scalar : Text.IsScalar piece.written) : piece.IsSimple := by
  cases piece with
  | node => cases token
  | leaf kind text =>
      cases kind with
      | word => exact Piece.isSimple_word token.1 (by simpa [Piece.written] using scalar) token.2
      | blank => exact Piece.isSimple_blank token (by simpa [Piece.written] using scalar)
      | quoted | remark | joint | dot | missing => cases token

theorem written_subset_writtenAll {pieces : List Piece} {piece : Piece} (member : piece ∈ pieces) :
    piece.written ⊆ Piece.writtenAll pieces := by
  induction pieces with
  | nil => cases member
  | cons first pieces ih =>
      rw [Piece.writtenAll_cons]
      rcases List.mem_cons.mp member with rfl | member
      · exact List.subset_append_left _ _
      · exact List.Subset.trans (ih member) (List.subset_append_right _ _)

/-- A field of free text is written unless it has several lines. -/
theorem exists_textField {text : Text} (filled : text ≠ []) (scalar : Text.IsScalar text)
    (endless : Endless text) (oneLine : hasSeveralLines text = false) :
    ∃ pieces, textField text = .ok pieces ∧ IsField text pieces := by
  obtain ⟨whole, tokens⟩ := freeText_of_frameless (frameless_of_endless endless)
  refine ⟨freeText text, ?_, fun piece member => ?_, ?_, whole⟩
  · rw [textField, singleLine_eq_ok_iff.mpr ⟨oneLine, rfl⟩]
    change withMeaning _ (Piece.writtenAll (freeText text)) = _
    rw [whole]
    exact withMeaning_eq_ok scalar.hasSurrogate
  · have within := written_subset_writtenAll member
    rw [whole] at within
    exact isSimple_of_isToken (tokens piece member) (scalar.of_subset within)
  · intro none
    rw [none] at whole
    exact filled whole.symm

/-! ## (4) Messages -/

namespace Message

variable {message : Message}

/-- A message with a subject of several lines has no written form. -/
theorem oneLine_of_raw {raw : Text} (written : message.raw = .ok raw) :
    hasSeveralLines message.subject = false := by
  obtain ⟨bytes, hbytes, -⟩ := Outcome.bind_eq_ok_iff.mp written
  obtain ⟨sections, hsections, -⟩ := Outcome.bind_eq_ok_iff.mp hbytes
  obtain ⟨recipient, -, hrest⟩ := Outcome.bind_eq_ok_iff.mp hsections
  obtain ⟨sender, -, hrest⟩ := Outcome.bind_eq_ok_iff.mp hrest
  obtain ⟨subject, hsubject, -⟩ := Outcome.bind_eq_ok_iff.mp hrest
  rw [textField] at hsubject
  obtain ⟨text, single, -⟩ := Outcome.bind_eq_ok_iff.mp hsubject
  exact (singleLine_eq_ok_iff.mp single).1

/-- Between ordinary addresses, and where no encoded word ends in its header, a message can be
written exactly if its subject has one line. -/
theorem exists_raw_iff
    (sender : IsOrdinary message.sender ∧ Endless message.sender)
    (recipient : IsOrdinary message.recipient ∧ Endless message.recipient)
    (filled : message.subject ≠ []) (subject : Text.IsScalar message.subject)
    (endless : Endless message.subject) (html : message.html.hasSurrogate = false) :
    (∃ raw, message.raw = .ok raw) ↔ hasSeveralLines message.subject = false := by
  constructor
  · rintro ⟨raw, written⟩
    exact oneLine_of_raw written
  · intro oneLine
    obtain ⟨target, htarget, targetField⟩ := recipient.1.exists_addressField recipient.2
    obtain ⟨origin, horigin, originField⟩ := sender.1.exists_addressField sender.2
    obtain ⟨about, habout, aboutField⟩ := exists_textField filled subject endless oneLine
    have folds : ∀ (name text : Text) (pieces : List Piece), IsField text pieces → Endless text →
        (name ≠ [] ∧ ∀ sign ∈ name, sign < 0x80 ∧ isGap sign = false ∧ sign ≠ Sign.question) →
        ∃ lines, foldField name pieces = .ok lines :=
      fun name text pieces field endless named =>
        exists_foldField named field.simple field.filled (field.whole ▸ endless)
    obtain ⟨targetLines, htargetLines⟩ := folds "To" _ _ targetField recipient.2 (by decide)
    obtain ⟨originLines, horiginLines⟩ := folds "From" _ _ originField sender.2 (by decide)
    obtain ⟨aboutLines, haboutLines⟩ := folds "Subject" _ _ aboutField endless (by decide)
    obtain ⟨body, hbody⟩ : ∃ body, Body.ofText message.html = .ok body := by
      rw [Body.ofText, Text.utf8_eq_ok html]
      exact ⟨_, rfl⟩
    obtain ⟨parts, hparts⟩ : ∃ parts, message.sections = .ok parts := by
      simp only [sections, htarget, horigin, habout, hbody, htargetLines, horiginLines,
        haboutLines, Except.mapError, bind, Except.bind]
      exact ⟨_, rfl⟩
    rw [raw, bytes, hparts]
    exact ⟨_, rfl⟩

end Message

end Coursework.Mail
