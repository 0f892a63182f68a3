import Coursework.Proofs.Mail.Fields
import Coursework.Proofs.Mail.Message
import Coursework.Proofs.Mail.Transfer

/-! # What arrives of a message

A message is read back from what is sent: base 64, a header up to the first empty line, and a body
in the transfer encoding that the header states. Its fields are the six of a message, whatever the
subject, since a line end in it is encoded; and the body is the text.

* **`Mail.headerOf`**, **`Mail.bodyOf`** and **`Mail.fieldNames`** take a message apart.
* **`Mail.Message.Delivers`** says that what is read back is the message.
* **`Mail.Message.delivers_or_refused`** is the statement, **`Mail.IsMailable`** are the addresses
  that it is about, and **`Mail.isMailable_joined`** gives those in daily use. -/

namespace Coursework.Mail

open EncodedWord (Endless)
open Text (IsCoded)

/-! ## (1) The parts of a message -/

/-- The lines of the header: those before the first empty one. -/
def headerOf (bytes : List Nat) : List Text := (Text.lines bytes).takeWhile (· != [])

/-- The body: what stands behind the first empty line. -/
def bodyOf (bytes : List Nat) : List Nat :=
  Text.joinWith [Sign.newline] (((Text.lines bytes).dropWhile (· != [])).drop 1)

/-- The names of the fields of a header: one for each line that does not go on with another. -/
def fieldNames (header : List Text) : List Text :=
  (header.filter (! continues ·)).map (·.takeWhile (· != Sign.colon))

/-- The transfer encoding with a name. -/
def TransferEncoding.named? (name : Text) : Option TransferEncoding :=
  [sevenBit, eightBit, quotedPrintable, base64].find? (·.name = name)

/-- The transfer encoding that the first line for it states. -/
def statedEncoding? (header : List Text) : Option TransferEncoding :=
  (header.findSome? (Text.after? · "Content-Transfer-Encoding: ")).bind TransferEncoding.named?

/-- The fields of a message. -/
def messageFields : List Text :=
  List.map Text.ofString
    ["To", "From", "Subject", "Content-Type", "Content-Transfer-Encoding", "MIME-Version"]

/-- What is sent is a message: one recipient field, one sender field and one subject field, nothing
but what describes the body besides, and the text as the body. -/
def Message.Delivers (message : Message) (raw : Text) : Prop :=
  ∃ bytes, Base64.decode? Base64.urlSafe raw = some bytes ∧
    fieldNames (headerOf bytes) = messageFields ∧
    ∃ encoding content, statedEncoding? (headerOf bytes) = some encoding ∧
      encoding.undo (bodyOf bytes) = some content ∧
      Text.ofUtf8 content = .ok message.html.unixLines.ended

/-! ## (2) Taking a message apart -/

section Apart

variable {header : List Text} (whole : ∀ line ∈ header, Sign.newline ∉ line)

include whole

theorem lines_written (rest : List Nat) :
    Text.lines (header.flatMap (· ++ [Sign.newline]) ++ rest) = header ++ Text.lines rest := by
  induction header with
  | nil => rfl
  | cons line header ih =>
      obtain ⟨first, others⟩ := List.forall_mem_cons.mp whole
      rw [List.flatMap_cons, List.append_assoc, List.append_assoc, List.singleton_append,
        Text.lines_append, ih others, Text.lines, Text.splitAt_of_not_mem first]
      rfl

variable (filled : ∀ line ∈ header, line ≠ [])

include filled

/-- A header and a body are found where they were put. -/
theorem headerOf_written (body : List Nat) :
    headerOf (header.flatMap (· ++ [Sign.newline]) ++ Sign.newline :: body) = header ∧
      bodyOf (header.flatMap (· ++ [Sign.newline]) ++ Sign.newline :: body) = body := by
  have empty : Text.lines (Sign.newline :: body) = [] :: Text.lines body :=
    Text.splitAt_cons_self _ _
  have passes : ∀ line ∈ header, (line != []) = true := fun line member =>
    bne_iff_ne.mpr (filled line member)
  rw [headerOf, bodyOf, lines_written whole, empty, List.takeWhile_append_of_pos passes,
    List.dropWhile_append_of_pos passes, List.takeWhile_cons_of_neg (by decide),
    List.dropWhile_cons_of_neg (by decide), List.append_nil, List.drop_one, List.tail_cons]
  exact ⟨rfl, Text.joinWith_splitAt _ _⟩

end Apart

/-! ## (3) Fields -/

theorem fieldNames_append (first second : List Text) :
    fieldNames (first ++ second) = fieldNames first ++ fieldNames second := by
  rw [fieldNames, List.filter_append, List.map_append]
  rfl

section Field

variable {name : Text} (named : IsFieldName name)

include named

/-- The line with a label does not go on with another. -/
theorem continues_label (rest : Text) : continues (name ++ Sign.colon :: rest) = false := by
  cases name with
  | nil => rfl
  | cons sign name =>
      have := named.bounds List.mem_cons_self
      simp only [List.cons_append, continues, List.head?_cons, Option.any_some, isGap, Sign.space,
        Sign.tab, Bool.or_eq_false_iff, decide_eq_false_iff_not]
      omega

theorem takeWhile_label (rest : Text) :
    (name ++ Sign.colon :: rest).takeWhile (· != Sign.colon) = name := by
  have other : ∀ sign ∈ name, (sign != Sign.colon) = true := fun sign member => by
    have := named.bounds member
    simp only [bne_iff_ne, Sign.colon]
    omega
  rw [List.takeWhile_append_of_pos other, List.takeWhile_cons_of_neg (by decide),
    List.append_nil]

/-- The lines of a field are one field. -/
theorem fieldNames_of_unfolds {lines : List Text}
    (unfolds : Unfolds (name ++ [Sign.colon]) lines) : fieldNames lines.reverse = [name] := by
  induction unfolds with
  | @first line begins =>
      obtain ⟨rest, rfl⟩ := begins
      rw [List.append_assoc, List.singleton_append, fieldNames, List.reverse_singleton,
        List.filter_singleton, continues_label named, Bool.not_false, cond_true, List.map_singleton,
        takeWhile_label named]
  | @next line lines more before ih =>
      rw [List.reverse_cons, fieldNames_append, ih, fieldNames, List.filter_singleton, more]
      rfl

omit named in
/-- Each of them begins with the name, or with white space. -/
theorem head?_of_unfolds {lines : List Text} (unfolds : Unfolds (name ++ [Sign.colon]) lines) :
    ∀ line ∈ lines, line.head? = (name ++ [Sign.colon]).head? ∨ continues line = true := by
  induction unfolds with
  | @first line begins =>
      obtain ⟨rest, rfl⟩ := begins
      refine List.forall_mem_singleton.mpr (.inl ?_)
      rw [List.head?_append_of_ne_nil _ (List.append_ne_nil_of_right_ne_nil _ (by simp))]
  | next more before ih => exact List.forall_mem_cons.mpr ⟨.inr more, ih⟩

end Field

/-! ## (4) What a message delivers -/

section Whole

variable {name : Text} {lines : List Text} (whole : IsWhole name lines)

include whole

theorem IsWhole.fieldNames (named : IsFieldName name) : fieldNames lines = [name] := by
  rw [← List.reverse_reverse lines]
  exact fieldNames_of_unfolds named whole.unfolds

theorem IsWhole.filled : ∀ line ∈ lines, line ≠ [] := by
  rintro line member rfl
  rcases head?_of_unfolds whole.unfolds [] (List.mem_reverse.mpr member) with head | more
  · cases name <;> cases head
  · cases more

/-- None of them states a transfer encoding. -/
theorem IsWhole.findSome?_eq_none (other : (name ++ [Sign.colon]).head? ≠ some 67) :
    lines.findSome? (Text.after? · "Content-Transfer-Encoding: ") = none := by
  rw [List.findSome?_eq_none_iff]
  intro line member
  rw [Option.eq_none_iff_forall_ne_some]
  intro rest found
  have begins := Text.eq_append_of_after? found
  have head : line.head? = some 67 := by rw [begins]; rfl
  rcases head?_of_unfolds whole.unfolds line (List.mem_reverse.mpr member) with same | more
  · exact other (same ▸ head)
  · rw [continues, head] at more
    cases more

end Whole

/-- The lines that describe the body. -/
def describing (encoding : TransferEncoding) : List Text :=
  [Message.fixedField "Content-Type" "text/html; charset=\"utf-8\"",
    Message.fixedField "Content-Transfer-Encoding" encoding.name,
    Message.fixedField "MIME-Version" "1.0"]

theorem describing_spec (encoding : TransferEncoding) :
    fieldNames (describing encoding) =
        List.map Text.ofString ["Content-Type", "Content-Transfer-Encoding", "MIME-Version"] ∧
      statedEncoding? (describing encoding) = some encoding ∧
      ∀ line ∈ describing encoding, line ≠ [] ∧ ∀ sign ∈ line, isInk sign = true := by
  cases encoding <;> decide

/-- Three fields that stay in their lines and a body that carries the text deliver a message. -/
theorem Message.delivers_of_isWhole {message : Message} {body : Body}
    {recipient sender subject : List Text} (codes : IsCoded message.html)
    (hbody : Body.ofText message.html = .ok body) (hrecipient : IsWhole "To" recipient)
    (hsender : IsWhole "From" sender) (hsubject : IsWhole "Subject" subject) :
    message.Delivers (Base64.encode Base64.urlSafe
      ((recipient ++ sender ++ subject ++ describing body.encoding).flatMap
        (· ++ [Sign.newline]) ++ Sign.newline :: body.bytes)) := by
  obtain ⟨⟨content, undone, read⟩, fits⟩ := Body.exists_undo_ofText hbody codes
  obtain ⟨names, stated, plain⟩ := describing_spec body.encoding
  generalize hheader : recipient ++ sender ++ subject ++ describing body.encoding = header
  have ink : ∀ line ∈ header, IsInk line := by
    rw [← hheader]
    simp only [List.forall_mem_append]
    exact ⟨⟨⟨hrecipient.ink, hsender.ink⟩, hsubject.ink⟩, fun line member => (plain line member).2⟩
  have filled : ∀ line ∈ header, line ≠ [] := by
    rw [← hheader]
    simp only [List.forall_mem_append]
    exact ⟨⟨⟨hrecipient.filled, hsender.filled⟩, hsubject.filled⟩,
      fun line member => (plain line member).1⟩
  have whole : ∀ line ∈ header, Sign.newline ∉ line := fun line member inside =>
    absurd (ink line member _ inside) (by decide)
  obtain ⟨hheader', hbody'⟩ := headerOf_written whole filled body.bytes
  have bytes : ∀ byte ∈ header.flatMap (· ++ [Sign.newline]) ++ Sign.newline :: body.bytes,
      byte < 0x100 := by
    refine List.forall_mem_append.mpr ⟨fun byte member => ?_,
      List.forall_mem_cons.mpr ⟨by decide, fits⟩⟩
    obtain ⟨line, inside, own⟩ := List.mem_flatMap.mp member
    rcases List.mem_append.mp own with own | ends
    · have := List.all_eq_true.mp (ink line inside).isAscii byte own
      exact (of_decide_eq_true this).trans (by decide)
    · rw [List.mem_singleton.mp ends]
      decide
  refine ⟨_, Base64.decode?_encode Base64.isFaithful_urlSafe bytes, ?_, body.encoding, content, ?_,
    ?_, read⟩
  · -- the fields that stand in the header are these and no others
    rw [hheader', ← hheader, fieldNames_append, fieldNames_append, fieldNames_append,
      hrecipient.fieldNames (by unfold IsFieldName; decide),
      hsender.fieldNames (by unfold IsFieldName; decide),
      hsubject.fieldNames (by unfold IsFieldName; decide), names]
    rfl
  · -- an address or a subject states no encoding, so the field that describes the body does
    rw [statedEncoding?] at stated ⊢
    rw [hheader', ← hheader, List.findSome?_append, List.findSome?_append, List.findSome?_append,
      hrecipient.findSome?_eq_none (by decide), hsender.findSome?_eq_none (by decide),
      hsubject.findSome?_eq_none (by decide)]
    exact stated
  · rw [hbody', undone]

/-- A message that is sent is its three fields, the description of its body, and the body. -/
theorem Message.exists_fields_of_raw {message : Message} {raw : Text}
    (written : message.raw = .ok raw) :
    ∃ target origin about body recipient sender subject,
      (addressField message.recipient = .ok target ∧ foldField "To" target = .ok recipient) ∧
      (addressField message.sender = .ok origin ∧ foldField "From" origin = .ok sender) ∧
      (textField message.subject = .ok about ∧ foldField "Subject" about = .ok subject) ∧
      Body.ofText message.html = .ok body ∧
      raw = Base64.encode Base64.urlSafe
        ((recipient ++ sender ++ subject ++ describing body.encoding).flatMap
          (· ++ [Sign.newline]) ++ Sign.newline :: body.bytes) := by
  obtain ⟨bytes, hbytes, done⟩ := Outcome.bind_eq_ok_iff.mp written
  cases done
  obtain ⟨⟨header, carried⟩, hsections, done⟩ := Outcome.bind_eq_ok_iff.mp hbytes
  cases done
  obtain ⟨target, htarget, h⟩ := Outcome.bind_eq_ok_iff.mp hsections
  obtain ⟨origin, horigin, h⟩ := Outcome.bind_eq_ok_iff.mp h
  obtain ⟨about, habout, h⟩ := Outcome.bind_eq_ok_iff.mp h
  obtain ⟨body, hbody, h⟩ := Outcome.bind_eq_ok_iff.mp h
  obtain ⟨recipient, hrecipient, h⟩ := Outcome.bind_eq_ok_iff.mp h
  obtain ⟨sender, hsender, h⟩ := Outcome.bind_eq_ok_iff.mp h
  obtain ⟨subject, hsubject, h⟩ := Outcome.bind_eq_ok_iff.mp h
  cases h
  exact ⟨target, origin, about, body, recipient, sender, subject, ⟨htarget, hrecipient⟩,
    ⟨horigin, hsender⟩, ⟨habout, hsubject⟩, Outcome.mapError_eq_ok_iff.mp hbody, rfl⟩

/-! ## (5) Messages -/

/-- Whether a failure is a refusal of what a text holds: a line end, or a sign without encoded
form. -/
def refusesText : Failure → Bool
  | .header .severalLines => true
  | .header .brokenAddress => true
  | .unencodable _ => true
  | _ => false

/-- The addresses that are written in the lines of their field, or refused for what they hold. -/
structure IsMailable (address : Text) : Prop where
  /-- They are refused. -/
  refused : ∀ failure, addressField address = .error failure → refusesText failure = true
  /-- They are written. -/
  contained : ∀ content, addressField address = .ok content → IsContained content

theorem refusesText_of_mapError {α : Type} {outcome : Except Unencodable α} {failure : Failure}
    (failed : outcome.mapError Failure.unencodable = .error failure) :
    refusesText failure = true := by
  obtain ⟨reason, -, rfl⟩ := Outcome.mapError_eq_error_iff.mp failed
  rfl

/-- Free text is refused for what it holds only. -/
theorem refusesText_of_textField {text : Text} {failure : Failure}
    (failed : textField text = .error failure) : refusesText failure = true := by
  rw [textField] at failed
  rcases Outcome.bind_eq_error_iff.mp failed with several | ⟨value, -, failed⟩
  · rw [singleLine] at several
    split at several <;> cases several
    rfl
  · rcases Outcome.bind_eq_error_iff.mp failed with faulty | ⟨_, -, done⟩
    · exact refusesText_of_mapError faulty
    · cases done

/-- Free text is read as it is. -/
theorem textField_eq_ok {text : Text} {content : List Piece} (read : textField text = .ok content) :
    content = freeText text ∧ hasSeveralLines text = false ∧
      ∃ bytes, (Piece.writtenAll (freeText text)).utf8Stray = .ok bytes := by
  rw [textField] at read
  obtain ⟨value, single, meant⟩ := Outcome.bind_eq_ok_iff.mp read
  obtain ⟨oneLine, rfl⟩ := singleLine_eq_ok_iff.mp single
  obtain ⟨bytes, encoded, done⟩ := Outcome.bind_eq_ok_iff.mp meant
  cases done
  exact ⟨rfl, oneLine, bytes, Outcome.mapError_eq_ok_iff.mp encoded⟩

/-- A text that has a form with stray bytes, but has none of these, is without surrogates. -/
theorem isScalar_of_utf8Stray {text : Text} {bytes : List Nat} (coded : IsCoded text)
    (unstrayed : ∀ sign ∈ text, Text.strayByte? sign = none)
    (encoded : text.utf8Stray = .ok bytes) : Text.IsScalar text := by
  refine Text.isScalar_of_hasSurrogate
    (Text.hasSurrogate_eq_false_iff.mpr fun sign member => ?_) coded
  rw [Text.utf8Stray, Text.encodeStray] at encoded
  split at encoded
  · rename_i admitted
    have kind := List.dropWhile_eq_nil_iff.mp admitted sign member
    rw [unstrayed sign member, Option.isSome_none, Bool.or_false, Bool.not_eq_true'] at kind
    exact kind
  · cases encoded

section Subject

variable {text : Text} {content : List Piece} (read : textField text = .ok content)

include read

/-- A subject stays in the lines of its field, whatever its encoded words hold. -/
theorem isWhole_subject (coded : IsCoded text) {lines : List Text}
    (folded : foldField "Subject" content = .ok lines) : IsWhole "Subject" lines := by
  obtain ⟨rfl, -⟩ := textField_eq_ok read
  exact isWhole_foldField_freeText (by unfold IsFieldName; decide)
    (fun piece member => (isCodedToken_freeText coded piece member).1) (isCoded_freeText coded)
    folded

/-- It is written if no encoded word ends in it and it has no stray bytes. -/
theorem exists_foldField_subject (coded : IsCoded text) (endless : Endless text)
    (unstrayed : ∀ sign ∈ text, Text.strayByte? sign = none) :
    ∃ lines, foldField "Subject" content = .ok lines := by
  obtain ⟨rfl, oneLine, bytes, encoded⟩ := textField_eq_ok read
  by_cases filled : text = []
  · subst filled
    exact ⟨_, foldField_nil (by unfold IsFieldName; decide)⟩
  · rw [(freeText_of_frameless (frameless_of_endless endless)).1] at encoded
    have scalar := isScalar_of_utf8Stray coded unstrayed encoded
    obtain ⟨pieces, again, field⟩ := exists_textField filled scalar endless oneLine
    obtain rfl := (textField_eq_ok again).1
    exact exists_foldField (by decide) field.simple field.filled (field.whole.symm ▸ endless)

end Subject

/-! ## (6) Addresses in daily use -/

/-- A settled piece that does not begin with white space. -/
def IsSteady (piece : Piece) : Prop := piece.beginsBlank? = some false ∧ piece.isSettled = true

/-- A construct of settled parts is steady if the first of them is. -/
theorem IsSteady.node {first : Piece} (steady : IsSteady first) (kind : Node) {rest : List Piece}
    (settled : ∀ piece ∈ rest, piece.isSettled = true) : IsSteady (.node kind (first :: rest)) := by
  have solid : (Piece.node kind (first :: rest)).beginsBlank? = some false := steady.1
  refine ⟨solid, ?_⟩
  rw [Piece.isSettled, Bool.and_eq_true, Piece.areSettled_iff, Piece.opensLine, solid]
  exact ⟨rfl, List.forall_mem_cons.mpr ⟨steady.2, settled⟩⟩

/-- Words with room on a line are settled, and so are the full stops between them. -/
theorem isSettled_of_mem_dotted {words : List Text}
    (short : ∀ word ∈ words, word.length + 1 ≤ lineLimit) :
    ∀ piece ∈ dotted words, piece.isSettled = true := by
  have leaf : ∀ word, word.length + 1 ≤ lineLimit → (Piece.leaf .word word).isSettled = true :=
    fun word room => by
      rw [Piece.isSettled, Bool.and_eq_true]
      exact ⟨rfl, decide_eq_true room⟩
  fun_induction dotted words with
  | case1 => exact List.forall_mem_nil _
  | case2 word => exact List.forall_mem_singleton.mpr (leaf word (short word List.mem_cons_self))
  | case3 word next words ih =>
      obtain ⟨first, others⟩ := List.forall_mem_cons.mp short
      rw [List.forall_mem_cons, List.forall_mem_cons]
      exact ⟨leaf word first, rfl, ih others⟩

theorem isSteady_row (kind : Node) {words : List Text} (filled : words ≠ [])
    (short : ∀ word ∈ words, word.length + 1 ≤ lineLimit) :
    IsSteady (.node kind [.node .dotAtom [.node .plain (dotted words)]]) := by
  have settled := isSettled_of_mem_dotted short
  obtain ⟨word, parts, h⟩ := exists_dotted_eq_cons filled
  rw [h, List.forall_mem_cons] at settled
  have first : IsSteady (.leaf .word word) := ⟨rfl, settled.1⟩
  rw [h]
  exact ((first.node .plain settled.2).node .dotAtom (List.forall_mem_nil _)).node kind
    (List.forall_mem_nil _)

/-- Two rows of words with an at sign between them are mailable in ASCII, of any length as long as
each word has room on a line. -/
theorem isMailable_joined {user host : List Text} (isUser : IsRow user) (isHost : IsRow host)
    (plain : ∀ sign ∈ joined user host, sign < 0x80 ∧ endsLine sign = false)
    (endless : Endless (joined user host))
    (short : ∀ word ∈ user ++ host, word.length + 1 ≤ lineLimit) :
    IsMailable (joined user host) := by
  have read := addressField_joined isUser isHost (fun sign member => (plain sign member).2)
    (Text.isScalar_of_forall_lt fun sign member => (plain sign member).1) endless
  have ink : IsInk (joined user host) := fun sign member => by
    obtain ⟨ascii, oneLine⟩ := plain sign member
    have inside : Fold.isLineEnd sign = false := by
      rw [Fold.isLineEnd, Bool.or_eq_false_iff, beq_eq_false_iff_ne, beq_eq_false_iff_ne]
      constructor <;> rintro rfl <;> exact absurd oneLine (by decide)
    rw [isInk, inside, Bool.not_false, Bool.and_true, decide_eq_true_eq]
    exact ascii
  obtain ⟨shortUser, shortHost⟩ := List.forall_mem_append.mp short
  have spec : IsSteady (joinedSpec user host) := by
    refine (isSteady_row .localPart isUser.1 shortUser).node .addrSpec ?_
    rw [List.forall_mem_cons, List.forall_mem_singleton]
    exact ⟨by decide, (isSteady_row .domain isHost.1 shortHost).2⟩
  refine ⟨fun failure failed => ?_, fun content found => ?_⟩
  · rw [read] at failed
    cases failed
  · obtain rfl := Except.ok.inj (read.symm.trans found)
    refine .settled ?_ rfl ?_
    · simpa [Piece.writtenAll, Piece.written, written_joinedSpec] using ink
    · exact (((spec.node .mailbox (List.forall_mem_nil _)).node .address
        (List.forall_mem_nil _)).node .plain (List.forall_mem_nil _)).2

/-! ## (7) What is sent -/

/-- **What is sent of a message is the message.** Between mailable addresses, a message arrives with
its own fields and its text, whatever its subject; and if no encoded word ends in the subject, which
has no stray bytes, nothing but what a text holds is a reason to send none. -/
theorem Message.delivers_or_refused {message : Message} (recipient : IsMailable message.recipient)
    (sender : IsMailable message.sender)
    (codes : IsCoded message.subject ∧ IsCoded message.html) :
    (∀ raw, message.raw = .ok raw → message.Delivers raw) ∧
      (Endless message.subject → (∀ sign ∈ message.subject, Text.strayByte? sign = none) →
        ∀ failure, message.raw = .error failure → refusesText failure = true) := by
  have toField : IsFieldName "To" := by unfold IsFieldName; decide
  have fromField : IsFieldName "From" := by unfold IsFieldName; decide
  constructor
  · intro raw written
    obtain ⟨target, origin, about, body, targetLines, originLines, aboutLines,
      ⟨htarget, htargetLines⟩, ⟨horigin, horiginLines⟩, ⟨habout, haboutLines⟩, hbody, rfl⟩ :=
        Message.exists_fields_of_raw written
    obtain ⟨lines, folded, targetWhole⟩ :=
      exists_isWhole_foldField toField (recipient.contained target htarget)
    obtain rfl := Except.ok.inj (folded.symm.trans htargetLines)
    obtain ⟨lines, folded, originWhole⟩ :=
      exists_isWhole_foldField fromField (sender.contained origin horigin)
    obtain rfl := Except.ok.inj (folded.symm.trans horiginLines)
    exact Message.delivers_of_isWhole codes.2 hbody targetWhole originWhole
      (isWhole_subject habout codes.1 haboutLines)
  · intro endless unstrayed failure failed
    rcases Outcome.bind_eq_error_iff.mp failed with failed | ⟨_, -, done⟩
    · rcases Outcome.bind_eq_error_iff.mp failed with failed | ⟨_, -, done⟩
      · rcases Outcome.bind_eq_error_iff.mp failed with failed | ⟨target, htarget, failed⟩
        · exact recipient.refused failure failed
        rcases Outcome.bind_eq_error_iff.mp failed with failed | ⟨origin, horigin, failed⟩
        · exact sender.refused failure failed
        rcases Outcome.bind_eq_error_iff.mp failed with failed | ⟨about, habout, failed⟩
        · exact refusesText_of_textField failed
        rcases Outcome.bind_eq_error_iff.mp failed with failed | ⟨body, hbody, failed⟩
        · exact refusesText_of_mapError failed
        -- nothing stops the fields themselves
        obtain ⟨targetLines, htargetLines, -⟩ :=
          exists_isWhole_foldField toField (recipient.contained target htarget)
        obtain ⟨originLines, horiginLines, -⟩ :=
          exists_isWhole_foldField fromField (sender.contained origin horigin)
        obtain ⟨aboutLines, haboutLines⟩ :=
          exists_foldField_subject habout codes.1 endless unstrayed
        rw [htargetLines, horiginLines, haboutLines] at failed
        cases failed
      · cases done
    · cases done

/-- A message whose subject has an encoded line end in it. -/
def sampleMessage : Message where
  sender := joined ["prof"] ["school", "edu"]
  recipient := joined ["a"] ["b", "co"]
  subject := "=?utf-8?q?Pr=C3=BCfung=0ABcc:_x@b.co?="
  html := "<p>Hi</p>"

/-- It arrives. -/
theorem delivers_sampleMessage :
    ∃ raw, sampleMessage.raw = .ok raw ∧ sampleMessage.Delivers raw := by
  obtain ⟨raw, written⟩ := Outcome.exists_of_isOk
    (show sampleMessage.raw.isOk = true by decide +kernel)
  have mailable : ∀ user host : List Text, (IsRow user ∧ IsRow host) →
      (∀ sign ∈ joined user host, sign < 0x80 ∧ endsLine sign = false ∧ sign ≠ Sign.question) →
      (∀ word ∈ user ++ host, word.length + 1 ≤ lineLimit) → IsMailable (joined user host) := by
    intro user host rows plain short
    refine isMailable_joined rows.1 rows.2
      (fun sign member => ⟨(plain sign member).1, (plain sign member).2.1⟩) (fun ended => ?_) short
    exact (plain _ (ended.subset List.mem_cons_self)).2.2 rfl
  have rows : ∀ words ∈ [[Text.ofString "prof"], ["school", "edu"], ["a"], ["b", "co"]],
      IsRow words := by
    unfold IsRow IsWord
    decide
  simp only [List.forall_mem_cons] at rows
  exact ⟨raw, written, (Message.delivers_or_refused
    (mailable _ _ ⟨rows.2.2.1, rows.2.2.2.1⟩ (by decide) (by decide))
    (mailable _ _ ⟨rows.1, rows.2.1⟩ (by decide) (by decide))
    ⟨by unfold IsCoded; decide, by unfold IsCoded; decide⟩).1 raw written⟩

/-- A message to an address without domain. -/
def homelessMessage : Message where
  sender := "prof@school.edu"
  recipient := "a@"
  subject := "S"
  html := "<p>Hi</p>"

/-- It is neither sent nor refused for what a text holds: the end of the address is not expected. -/
theorem not_delivers_or_refused_homeless :
    ¬ ∀ message : Message, IsCoded message.recipient → IsCoded message.sender →
      IsCoded message.subject → IsCoded message.html →
      (∃ raw, message.raw = .ok raw ∧ message.Delivers raw) ∨
        ∃ failure, message.raw = .error failure ∧ refusesText failure = true := by
  intro every
  have stopped : (match homelessMessage.raw with
      | .ok _ => true
      | .error failure => refusesText failure) = false := by
    decide +kernel
  rcases every homelessMessage (by unfold IsCoded; decide) (by unfold IsCoded; decide)
    (by unfold IsCoded; decide) (by unfold IsCoded; decide) with
    ⟨raw, written, -⟩ | ⟨failure, failed, refused⟩
  · rw [written] at stopped
    cases stopped
  · rw [failed] at stopped
    exact absurd refused (Bool.eq_false_iff.mp stopped)

end Coursework.Mail
