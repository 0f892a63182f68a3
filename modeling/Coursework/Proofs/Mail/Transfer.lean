import Coursework.Mail.Body
import Coursework.Proofs.Mail.EncodedWord
import Coursework.Proofs.Outcome
import Coursework.Proofs.Text.Base64
import Coursework.Proofs.Text.Lines
import Coursework.Proofs.Text.Utf8

/-! # Bodies are carried as they are

A body is undone with the transfer encoding that its message states, and read in UTF-8. What is read
is the text that was to be sent, with its line ends made alike and one at its end.

* **`Text.ended`** is a text with a line end at its end.
* **`Mail.TransferEncoding.undo`** undoes a transfer encoding; **`Mail.readQuoted`** is the reader
  of quoted-printable, which refuses whatever is not written with it.
* **`Mail.Body.exists_undo_ofText`** is the main statement. -/

namespace Coursework

/-! ## (1) Line ends -/

namespace Text

/-- A text with a line end at its end. -/
def ended (text : Text) : Text :=
  if text.getLast? = some Sign.newline then text else text ++ [Sign.newline]

theorem utf8Bytes_ne_nil (sign : Nat) : utf8Bytes sign ≠ [] := by
  rw [utf8Bytes]
  split_ifs <;> simp

/-- An ASCII byte is a code point of its own. -/
theorem eq_of_mem_utf8Bytes {sign byte : Nat} (member : byte ∈ utf8Bytes sign)
    (ascii : byte < 0x80) : sign = byte := by
  rw [utf8Bytes] at member
  split_ifs at member <;> simp only [List.mem_cons, List.not_mem_nil, or_false] at member <;> omega

/-- The first byte is a line feed if the first code point is. -/
theorem head?_flatMap_utf8Bytes {text : Text}
    (first : (text.flatMap utf8Bytes).head? = some Sign.newline) :
    text.head? = some Sign.newline := by
  cases text with
  | nil => cases first
  | cons sign text =>
      rw [List.flatMap_cons, List.head?_append_of_ne_nil _ (utf8Bytes_ne_nil sign)] at first
      rw [eq_of_mem_utf8Bytes (List.mem_of_mem_head? first) (by decide)]
      rfl

/-- The last byte is a line feed exactly if the last code point is. -/
theorem getLast?_flatMap_utf8Bytes (text : Text) :
    (text.flatMap utf8Bytes).getLast? = some Sign.newline ↔
      text.getLast? = some Sign.newline := by
  induction text using List.reverseRecOn with
  | nil => rfl
  | append_singleton text sign _ =>
      rw [List.flatMap_append, List.flatMap_singleton,
        List.getLast?_append_of_ne_nil _ (utf8Bytes_ne_nil sign), List.getLast?_concat]
      constructor
      · intro last
        rw [eq_of_mem_utf8Bytes (List.mem_of_getLast? last) (by decide)]
      · intro last
        rw [Option.some.inj last]
        rfl

/-- Line ends are made alike in the bytes as in the text. -/
theorem unixLines_flatMap (text : Text) :
    unixLines (text.flatMap utf8Bytes) = (unixLines text).flatMap utf8Bytes := by
  have single : utf8Bytes Sign.carriageReturn = [Sign.carriageReturn] ∧
      utf8Bytes Sign.newline = [Sign.newline] := ⟨rfl, rfl⟩
  induction text using unixLines.induct with
  | case1 text ih =>
      rw [List.flatMap_cons, List.flatMap_cons, single.1, single.2, List.cons_append,
        List.nil_append, List.cons_append, List.nil_append, unixLines, unixLines,
        List.flatMap_cons, single.2, ih, List.cons_append, List.nil_append]
  | case2 text alone ih =>
      have apart : (text.flatMap utf8Bytes).head? ≠ some Sign.newline := by
        intro first
        obtain ⟨rest, rfl⟩ := List.head?_eq_some_iff.mp (head?_flatMap_utf8Bytes first)
        exact alone rest rfl
      rw [List.flatMap_cons, single.1, List.cons_append, List.nil_append,
        unixLines_return apart, unixLines.eq_2 _ alone, List.flatMap_cons, single.2, ih,
        List.cons_append, List.nil_append]
  | case3 sign text _ other ih =>
      have absent : Sign.carriageReturn ∉ utf8Bytes sign := fun member =>
        other (eq_of_mem_utf8Bytes member (by decide))
      rw [List.flatMap_cons, unixLines_append fun last =>
          absurd (List.mem_of_getLast? last) absent,
        unixLines_of_not_mem absent, ih, unixLines_cons other, List.flatMap_cons]
  | case4 => rfl

theorem ended_flatMap (text : Text) :
    ended (text.flatMap utf8Bytes) = (ended text).flatMap utf8Bytes := by
  rw [ended, ended]
  by_cases last : text.getLast? = some Sign.newline
  · rw [if_pos last, if_pos ((getLast?_flatMap_utf8Bytes text).mpr last)]
  · rw [if_neg last, if_neg (mt (getLast?_flatMap_utf8Bytes text).mp last), List.flatMap_append]
    rfl

/-- A text keeps its signs when its line ends are made alike and one is put at its end. -/
theorem IsScalar.ended_unixLines {text : Text} (scalar : IsScalar text) :
    IsScalar text.unixLines.ended := by
  have alike : IsScalar text.unixLines := fun sign member => by
    rcases mem_unixLines member with own | rfl
    · exact scalar sign own
    · rfl
  rw [ended]
  split
  · exact alike
  · exact isScalar_append.mpr ⟨alike, List.forall_mem_singleton.mpr rfl⟩

/-- Joined pieces with a further one behind them. -/
theorem joinWith_concat {pieces : List Text} (some : pieces ≠ []) (joint last : Text) :
    joinWith joint (pieces ++ [last]) = joinWith joint pieces ++ joint ++ last := by
  obtain ⟨piece, pieces, rfl⟩ := List.exists_cons_of_ne_nil some
  rw [List.cons_append, joinWith_cons, joinWith_cons, List.flatMap_append, List.flatMap_singleton,
    List.append_assoc, List.append_assoc]

end Text

namespace Mail

namespace Body

/-- The lines of a text are joined to the text, with a line end at its end. -/
theorem join_lines (bytes : List Nat) : join (lines bytes) = (Text.unixLines bytes).ended := by
  have whole := Text.joinWith_splitAt Sign.newline (Text.unixLines bytes)
  have absent := fun line => @Text.not_mem_of_mem_splitAt Sign.newline (Text.unixLines bytes) line
  have some := Text.splitAt_ne_nil Sign.newline (Text.unixLines bytes)
  rw [lines, Text.lines]
  generalize Text.unixLines bytes = text at whole absent some ⊢
  obtain ⟨init, last, parts⟩ := (List.eq_nil_or_concat _).resolve_left some
  rw [List.concat_eq_append] at parts
  rw [parts] at whole absent
  rw [parts, List.reverse_append, List.reverse_singleton, List.singleton_append]
  cases last with
  | nil =>
      dsimp only
      rw [List.reverse_reverse, join]
      by_cases none : init = []
      · rw [none] at whole ⊢
        rw [← whole]
        rfl
      · rw [Text.joinWith_concat none, List.append_nil] at whole
        rw [whole, Text.ended, ← whole, if_pos (List.getLast?_concat)]
  | cons sign rest =>
      dsimp only
      rw [List.reverse_cons, List.reverse_reverse, join, whole, Text.ended, if_neg]
      intro ends
      have inside : text.getLast? = (sign :: rest).getLast? := by
        by_cases none : init = []
        · rw [← whole, none]
          rfl
        · rw [← whole, Text.joinWith_concat none,
            List.getLast?_append_of_ne_nil _ (List.cons_ne_nil _ _)]
      exact absent _ (List.mem_append_right init List.mem_cons_self)
        (List.mem_of_getLast? (inside ▸ ends))

/-- The lines of bytes are bytes without line feeds. -/
theorem mem_lines {bytes line : List Nat} (member : line ∈ lines bytes) {byte : Nat}
    (inside : byte ∈ line) :
    (byte ∈ bytes ∨ byte = Sign.newline) ∧ byte ≠ Sign.newline := by
  have part : line ∈ Text.splitAt Sign.newline (Text.unixLines bytes) := by
    rw [lines, Text.lines] at member
    split at member
    · rename_i others same
      rw [← List.mem_reverse, same]
      exact List.mem_cons_of_mem _ (List.mem_reverse.mp member)
    · rwa [List.reverse_reverse] at member
  refine ⟨Text.mem_unixLines (Text.mem_of_mem_splitAt part inside), ?_⟩
  rintro rfl
  exact Text.not_mem_of_mem_splitAt part inside

/-- Joined lines are lines one after another. -/
theorem join_append {first second : List (List Nat)} (some : first ≠ []) (others : second ≠ []) :
    join (first ++ second) = join first ++ join second := by
  obtain ⟨line, first, rfl⟩ := List.exists_cons_of_ne_nil some
  obtain ⟨next, second, rfl⟩ := List.exists_cons_of_ne_nil others
  rw [join, join, join, List.cons_append, Text.joinWith_cons, Text.joinWith_cons,
    Text.joinWith_cons, List.flatMap_append, List.flatMap_cons]
  simp only [List.append_assoc]

theorem join_singleton (line : List Nat) : join [line] = line ++ [Sign.newline] := rfl

theorem join_cons {others : List (List Nat)} (some : others ≠ []) (line : List Nat) :
    join (line :: others) = line ++ Sign.newline :: join others := by
  rw [← List.singleton_append, join_append (List.cons_ne_nil _ _) some, join_singleton,
    List.append_assoc, List.singleton_append]

end Body

/-! ## (2) Quoted-printable -/

/-- Whether a byte may not stand before a line end. -/
def isLoose (byte : Nat) : Bool := byte == Sign.space || byte == Sign.tab

/-- The bytes that quoted-printable stands for. Only printable ASCII, blanks and line ends stand for
themselves, and blanks do not at the end of a line. -/
def readQuoted : List Nat → Option (List Nat)
  | [] => some []
  | Sign.equals :: Sign.newline :: text => readQuoted text
  | Sign.equals :: high :: low :: text => do
    let high ← Sign.hexValue? high
    let low ← Sign.hexValue? low
    let bytes ← readQuoted text
    return (high * 16 + low) :: bytes
  | sign :: text =>
    if sign = Sign.equals then none
    else if isLoose sign && text.head?.all (· == Sign.newline) then none
    else if sign = Sign.newline || sign = Sign.tab || (32 ≤ sign && sign ≤ 126) then
      (readQuoted text).map (sign :: ·)
    else none

namespace Body

theorem readQuoted_cons {sign : Nat} {text : List Nat} (unquoted : sign ≠ Sign.equals)
    (tight : isLoose sign = true → text.head?.all (· == Sign.newline) = false)
    (stands : sign = Sign.newline ∨ sign = Sign.tab ∨ (32 ≤ sign ∧ sign ≤ 126)) :
    readQuoted (sign :: text) = (readQuoted text).map (sign :: ·) := by
  rw [readQuoted]
  · rw [if_neg unquoted, if_neg, if_pos]
    · simpa [or_assoc] using stands
    · rw [Bool.and_eq_true]
      rintro ⟨loose, last⟩
      rw [tight loose] at last
      cases last
  · rintro _ rfl
    exact absurd rfl unquoted
  · rintro _ _ _ rfl
    exact absurd rfl unquoted

theorem readQuoted_quoteByte {byte : Nat} (fits : byte < 0x100) (text : List Nat) :
    readQuoted (quoteByte byte ++ text) = (readQuoted text).map (byte :: ·) := by
  have high := EncodedWord.hexValue?_capitalHexDigit (byte / 16) (by omega)
  have low := EncodedWord.hexValue?_capitalHexDigit (byte % 16) (by omega)
  have whole : byte / 16 * 16 + byte % 16 = byte := by omega
  have digit : Sign.capitalHexDigit (byte / 16) ≠ Sign.newline := by
    intro same
    rw [same] at high
    cases high
  rw [quoteByte, List.cons_append, List.cons_append, List.cons_append, List.nil_append, readQuoted,
    high, low]
  · simp only [Option.bind_eq_bind, Option.bind_some, Option.pure_def, whole]
    cases readQuoted text <;> rfl
  · exact digit

/-- A blank at the end of a line has something else than a line end behind it. -/
def Follows (line text : List Nat) : Prop :=
  ∀ last, line.getLast? = some last → isLoose last = true →
    text.head?.all (· == Sign.newline) = false

theorem Follows.tail {byte : Nat} {line text : List Nat} (follows : Follows (byte :: line) text) :
    Follows line text := by
  intro last ends loose
  exact follows last (by rw [List.getLast?_cons, ends, Option.getD_some]) loose

/-- Bytes are read back from their quoted form, whatever may follow. -/
theorem readQuoted_quoteLine {line : List Nat} (fits : ∀ byte ∈ line, byte < 0x100)
    {text : List Nat} (follows : Follows line text) :
    readQuoted (quoteLine line ++ text) = (readQuoted text).map (line ++ ·) := by
  induction line with
  | nil => cases h : readQuoted text <;> simp [quoteLine, h]
  | cons byte line ih =>
      obtain ⟨first, others⟩ := List.forall_mem_cons.mp fits
      have inner := ih others follows.tail
      have joined (found : Option (List Nat)) :
          (found.map (line ++ ·)).map (byte :: ·) = found.map (byte :: line ++ ·) := by
        rw [Option.map_map]
        rfl
      rw [quoteLine] at inner
      rw [quoteLine, List.flatMap_cons, List.append_assoc]
      split
      · rename_i plain
        simp only [isPlain, Bool.or_eq_true, Bool.and_eq_true, decide_eq_true_eq, bne_iff_ne]
          at plain
        have unquoted : byte ≠ Sign.equals := by
          rintro rfl
          exact absurd plain (by decide)
        rw [List.singleton_append, readQuoted_cons unquoted ?_ (by omega), inner, joined]
        intro loose
        -- a blank has something else behind it: a byte of the line, an escape or what follows
        cases line with
        | nil =>
            rw [List.flatMap_nil, List.nil_append]
            exact follows byte rfl loose
        | cons next line =>
            rw [List.flatMap_cons]
            split
            · rename_i shown
              simp only [isPlain, Bool.or_eq_true, Bool.and_eq_true, decide_eq_true_eq,
                bne_iff_ne] at shown
              have other : (next == Sign.newline) = false := by
                rw [beq_eq_false_iff_ne]
                rintro rfl
                exact absurd shown (by decide)
              simpa using other
            · rfl
      · rw [readQuoted_quoteByte first, inner, joined]

theorem readQuoted_newline (text : List Nat) :
    readQuoted (Sign.newline :: text) = (readQuoted text).map (Sign.newline :: ·) :=
  readQuoted_cons (by decide) (fun loose => absurd loose (by decide)) (.inl rfl)

theorem readQuoted_soft (text : List Nat) :
    readQuoted (Sign.equals :: Sign.newline :: text) = readQuoted text := by
  rw [readQuoted]

theorem quoteLine_append (first second : List Nat) :
    quoteLine (first ++ second) = quoteLine first ++ quoteLine second := List.flatMap_append

/-- A place in a quoted line is not within an escape. -/
def Outside (quoted : List Nat) (place : Nat) : Prop :=
  quoted[place]? = some Sign.equals ∨
    ∀ before, before + 1 = place ∨ before + 2 = place → quoted[before]? ≠ some Sign.equals

theorem capitalHexDigit_ne_equals (value : Nat) : Sign.capitalHexDigit value ≠ Sign.equals := by
  rw [Sign.capitalHexDigit, Sign.equals]
  split <;> omega

/-- A quoted line is cut where no escape is. -/
theorem exists_cut {line : List Nat} (fits : ∀ byte ∈ line, byte < 0x100) {place : Nat}
    (within : place ≤ (quoteLine line).length) (outside : Outside (quoteLine line) place) :
    ∃ before behind, line = before ++ behind ∧ quoteLine before = (quoteLine line).take place ∧
      quoteLine behind = (quoteLine line).drop place := by
  induction line generalizing place with
  | nil =>
      obtain rfl := Nat.le_zero.mp within
      exact ⟨[], [], rfl, rfl, rfl⟩
  | cons byte line ih =>
      obtain ⟨first, others⟩ := List.forall_mem_cons.mp fits
      have whole : quoteLine (byte :: line) =
          (if isPlain byte then [byte] else quoteByte byte) ++ quoteLine line := List.flatMap_cons
      cases place with
      | zero => exact ⟨[], byte :: line, rfl, rfl, rfl⟩
      | succ place =>
          -- what stands behind the first byte is cut
          have cut (token : List Nat) (own : quoteLine (byte :: line) = token ++ quoteLine line)
              {rest : Nat} (behind : place + 1 = token.length + rest)
              (outside : Outside (quoteLine line) rest) :
              ∃ before behind, byte :: line = before ++ behind ∧
                quoteLine before = (quoteLine (byte :: line)).take (place + 1) ∧
                quoteLine behind = (quoteLine (byte :: line)).drop (place + 1) := by
            rw [own, List.length_append] at within
            obtain ⟨before, after, split, taken, dropped⟩ :=
              ih others (by omega) outside
            have alone : quoteLine [byte] = token := by
              have single := quoteLine_append [byte] line
              rw [List.singleton_append, own] at single
              exact (List.append_cancel_right single).symm
            refine ⟨byte :: before, after, by rw [split, List.cons_append], ?_, ?_⟩
            · rw [← List.singleton_append, quoteLine_append, alone, taken, own, behind,
                List.take_length_add_append]
            · rw [own, behind, List.drop_length_add_append, dropped]
          split at whole
          · refine cut [byte] whole (Nat.add_comm _ _) ?_
            rw [whole] at outside
            refine outside.imp (fun escape => ?_) fun free before near => ?_
            · simpa using escape
            · simpa using free (before + 1) (by omega)
          · rw [whole] at outside
            match place with
            | 0 =>
                rcases outside with escape | free
                · exact absurd (Option.some.inj escape) (capitalHexDigit_ne_equals _)
                · exact absurd rfl (free 0 (.inl rfl))
            | 1 =>
                rcases outside with escape | free
                · exact absurd (Option.some.inj escape) (capitalHexDigit_ne_equals _)
                · exact absurd rfl (free 0 (.inr rfl))
            | place + 2 =>
                refine cut (quoteByte byte) whole (Nat.add_comm _ 3) ?_
                refine outside.imp (fun escape => ?_) fun free before near => ?_
                · simpa [quoteByte] using escape
                · simpa [quoteByte] using free (before + 3) (by omega)

theorem quoteLine_singleton (byte : Nat) :
    quoteLine [byte] = if isPlain byte then [byte] else quoteByte byte := List.flatMap_singleton _ _

/-- A quoted line ends with a blank only if the line does. -/
theorem exists_getLast?_quoteLine (init : List Nat) {byte : Nat}
    (tight : isLoose byte = false) :
    ∃ last, (quoteLine (init ++ [byte])).getLast? = some last ∧ isLoose last = false := by
  rw [quoteLine_append, quoteLine_singleton]
  split
  · exact ⟨byte, List.getLast?_concat, tight⟩
  · have digit := EncodedWord.hexValue?_capitalHexDigit (byte % 16) (by omega)
    refine ⟨Sign.capitalHexDigit (byte % 16), ?_, ?_⟩
    · rw [List.getLast?_append_of_ne_nil _ (by simp [quoteByte])]
      rfl
    · rw [isLoose, Bool.or_eq_false_iff, beq_eq_false_iff_ne, beq_eq_false_iff_ne]
      constructor <;>
      · intro same
        rw [same] at digit
        cases digit

/-- A blank at the end of a line is read back, however it is protected. -/
theorem readQuoted_lastPiece_loose {init : List Nat} (fits : ∀ byte ∈ init, byte < 0x100)
    {last : Nat} (loose : isLoose last = true) (text : List Nat) :
    readQuoted (lastPiece (quoteLine init ++ [last]) ++ Sign.newline :: text) =
      (readQuoted text).map (init ++ last :: Sign.newline :: ·) := by
  have blank : last = Sign.space ∨ last = Sign.tab := by
    simpa [isLoose] using loose
  have fit : last < 0x100 := by
    rcases blank with rfl | rfl <;> decide
  have guarded {text : List Nat} (first : text.head?.all (· == Sign.newline) = false) :
      Follows init text := fun _ _ _ => first
  have joined (found : Option (List Nat)) :
      ((found.map (Sign.newline :: ·)).map (last :: ·)).map (init ++ ·) =
        found.map (init ++ last :: Sign.newline :: ·) := by
    rw [Option.map_map, Option.map_map]
    rfl
  rw [lastPiece, List.getLast?_concat]
  dsimp only
  rw [if_pos (by simpa using blank), List.dropLast_concat]
  split_ifs
  · rw [List.append_assoc, readQuoted_quoteLine fits (guarded rfl), readQuoted_quoteByte fit,
      readQuoted_newline, joined]
  · have itself : readQuoted (last :: Sign.equals :: Sign.newline :: Sign.newline :: text) =
        (readQuoted (Sign.newline :: text)).map (last :: ·) := by
      rw [readQuoted_cons, readQuoted_soft]
      · rcases blank with rfl | rfl <;> decide
      · intro _
        rfl
      · rcases blank with rfl | rfl <;> decide
    have follows : Follows init (last :: Sign.equals :: Sign.newline :: Sign.newline :: text) :=
      guarded (by rcases blank with rfl | rfl <;> rfl)
    rw [List.append_assoc, List.cons_append, List.cons_append, List.cons_append, List.nil_append,
      readQuoted_quoteLine fits follows, itself, readQuoted_newline, joined]
  · rw [List.append_assoc, List.cons_append, List.cons_append,
      readQuoted_quoteLine fits (guarded rfl), readQuoted_soft, readQuoted_quoteByte fit,
      readQuoted_newline, joined]

/-- The last piece of a line is read back with the line end behind it. -/
theorem readQuoted_lastPiece {line : List Nat} (fits : ∀ byte ∈ line, byte < 0x100)
    (text : List Nat) :
    readQuoted (lastPiece (quoteLine line) ++ Sign.newline :: text) =
      (readQuoted text).map (line ++ Sign.newline :: ·) := by
  rcases List.eq_nil_or_concat line with rfl | ⟨init, byte, rfl⟩
  · exact readQuoted_newline text
  · rw [List.concat_eq_append] at fits ⊢
    cases loose : isLoose byte with
    | true =>
        have plain : isPlain byte = true := by
          simp only [isLoose, Bool.or_eq_true, beq_iff_eq] at loose
          rcases loose with rfl | rfl <;> decide
        rw [quoteLine_append, quoteLine_singleton, if_pos plain,
          readQuoted_lastPiece_loose (fun byte member => fits byte (List.mem_append_left _ member))
            loose]
        simp only [List.append_assoc, List.singleton_append]
    | false =>
        obtain ⟨last, ends, tight⟩ := exists_getLast?_quoteLine init loose
        have follows : Follows (init ++ [byte]) (Sign.newline :: text) := by
          intro last same blank
          rw [List.getLast?_concat] at same
          rw [← Option.some.inj same, loose] at blank
          cases blank
        rw [lastPiece, ends]
        dsimp only
        rw [if_neg, readQuoted_quoteLine fits follows, readQuoted_newline, Option.map_map]
        · rfl
        · simpa [isLoose] using tight

theorem pieces_ne_nil (fuel : Nat) (quoted : Text) : pieces fuel quoted ≠ [] := by
  cases fuel with
  | zero => exact List.cons_ne_nil _ _
  | succ fuel =>
      rw [pieces]
      dsimp only
      split_ifs <;> exact List.cons_ne_nil _ _

/-- A line that is broken into pieces is read back with the line end behind it. -/
theorem readQuoted_pieces (fuel : Nat) {line : List Nat} (fits : ∀ byte ∈ line, byte < 0x100)
    (text : List Nat) :
    readQuoted (join (pieces fuel (quoteLine line)) ++ text) =
      (readQuoted text).map (line ++ Sign.newline :: ·) := by
  have last {line : List Nat} (fits : ∀ byte ∈ line, byte < 0x100) :
      readQuoted (join [lastPiece (quoteLine line)] ++ text) =
        (readQuoted text).map (line ++ Sign.newline :: ·) := by
    rw [join_singleton, List.append_assoc, List.singleton_append, readQuoted_lastPiece fits]
  induction fuel generalizing line with
  | zero => exact last fits
  | succ fuel ih =>
      have broken {place : Nat} (within : place ≤ (quoteLine line).length)
          (outside : Outside (quoteLine line) place) :
          readQuoted ((quoteLine line).take place ++ Sign.equals :: Sign.newline ::
            (join (pieces fuel ((quoteLine line).drop place)) ++ text)) =
            (readQuoted text).map (line ++ Sign.newline :: ·) := by
        obtain ⟨before, behind, rfl, taken, dropped⟩ := exists_cut fits within outside
        obtain ⟨first, second⟩ := List.forall_mem_append.mp fits
        have follows (text : List Nat) : Follows before (Sign.equals :: text) :=
          fun _ _ _ => rfl
        rw [← taken, ← dropped, readQuoted_quoteLine first (follows _), readQuoted_soft,
          ih second, Option.map_map]
        congr 1
        funext bytes
        simp
      -- the sign of an escape that is not broken serves as the soft break before it
      have shared {place : Nat} (within : place ≤ (quoteLine line).length)
          (escape : (quoteLine line)[place]? = some Sign.equals) :
          readQuoted (join ((quoteLine line).take (place + 1) ::
            pieces fuel ((quoteLine line).drop place)) ++ text) =
            (readQuoted text).map (line ++ Sign.newline :: ·) := by
        have cut := broken within (.inl escape)
        rw [join_cons (pieces_ne_nil _ _), List.take_add_one, escape]
        simpa using cut
      rw [pieces]
      split
      · exact last fits
      · rename_i long
        rw [lineLength] at long
        dsimp only
        split_ifs with escape later
        · rw [List.head?_drop] at escape
          exact @shared 75 (by omega) escape
        · rw [List.head?_drop] at later
          exact @shared 76 (by omega) later
        · rw [List.head?_drop] at escape later
          have cut := @broken 77 (by omega) <| .inr fun before near => by
            rcases near with h | h
            · obtain rfl : before = 76 := by omega
              exact later
            · obtain rfl : before = 75 := by omega
              exact escape
          rw [join_cons (pieces_ne_nil _ _)]
          simpa [lineLength] using cut

/-- Lines are read back from quoted-printable. -/
theorem readQuoted_quotedPrintable {lines : List (List Nat)}
    (fits : ∀ line ∈ lines, ∀ byte ∈ line, byte < 0x100) :
    readQuoted (quotedPrintable lines) = some (join lines) := by
  have filled (lines : List (List Nat)) (some : lines ≠ []) :
      lines.flatMap (fun line => pieces (quoteLine line).length (quoteLine line)) ≠ [] := by
    obtain ⟨line, lines, rfl⟩ := List.exists_cons_of_ne_nil some
    rw [List.flatMap_cons]
    exact fun none => pieces_ne_nil _ _ (List.append_eq_nil_iff.mp none).1
  have whole (lines : List (List Nat)) (some : lines ≠ [])
      (fits : ∀ line ∈ lines, ∀ byte ∈ line, byte < 0x100) :
      readQuoted (join (lines.flatMap fun line =>
        pieces (quoteLine line).length (quoteLine line))) = .some (join lines) := by
    induction lines with
    | nil => exact absurd rfl some
    | cons line lines ih =>
        obtain ⟨first, others⟩ := List.forall_mem_cons.mp fits
        rw [List.flatMap_cons]
        by_cases none : lines = []
        · have alone := readQuoted_pieces (quoteLine line).length first []
          rw [List.append_nil] at alone
          rw [none, List.flatMap_nil, List.append_nil, alone]
          rfl
        · rw [join_append (pieces_ne_nil _ _) (filled lines none), readQuoted_pieces _ first,
            ih none others, join_cons none]
          rfl
  rw [quotedPrintable]
  dsimp only
  split
  · rename_i empty
    rw [List.isEmpty_iff.mp empty]
    rfl
  · rename_i some
    exact whole lines (mt List.isEmpty_iff.mpr some) fits

/-- What quoted-printable stands for is written in ASCII. -/
theorem lt_of_readQuoted {text bytes : List Nat} (read : readQuoted text = some bytes) :
    ∀ sign ∈ text, sign < 0x80 := by
  have digit {sign value : Nat} (spelled : Sign.hexValue? sign = some value) : sign < 0x80 := by
    rw [Sign.hexValue?] at spelled
    simp only [Sign.isDigit, Bool.and_eq_true, decide_eq_true_eq] at spelled
    split_ifs at spelled <;> omega
  fun_induction readQuoted text generalizing bytes with
  | case1 => exact List.forall_mem_nil _
  | case2 text ih =>
      simp only [List.forall_mem_cons]
      exact ⟨by decide, by decide, ih read⟩
  | case3 high low text _ ih =>
      simp only [Option.bind_eq_bind, Option.bind_eq_some_iff] at read
      obtain ⟨_, first, _, second, _, rest, -⟩ := read
      simp only [List.forall_mem_cons]
      exact ⟨by decide, digit first, digit second, ih rest⟩
  | case4 | case5 | case7 => cases read
  | case6 sign text _ _ _ _ stands ih =>
      obtain ⟨_, rest, -⟩ := Option.map_eq_some_iff.mp read
      simp only [Bool.or_eq_true, Bool.and_eq_true, decide_eq_true_eq, Sign.newline, Sign.tab]
        at stands
      exact List.forall_mem_cons.mpr ⟨by omega, ih rest⟩

/-! ## (3) Base 64 -/

/-- Without their line ends, lines of base 64 are the base 64 of their bytes. -/
theorem filter_base64Lines {fuel : Nat} {bytes : List Nat} (enough : bytes.length ≤ fuel)
    (fits : ∀ byte ∈ bytes, byte < 0x100) :
    (base64Lines fuel bytes).filter (· != Sign.newline) =
      Base64.encode Base64.standard bytes := by
  have single : ∀ value < 64, Base64.standard.sign value ≠ Sign.newline := by decide
  have kept (bytes : List Nat) (fits : ∀ byte ∈ bytes, byte < 0x100) :
      (Base64.encode Base64.standard bytes).filter (· != Sign.newline) =
        Base64.encode Base64.standard bytes := by
    refine List.filter_eq_self.mpr fun sign member => bne_iff_ne.mpr ?_
    rcases Base64.mem_encode fits member with rfl | ⟨value, small, rfl⟩
    · decide
    · exact single value small
  induction fuel generalizing bytes with
  | zero =>
      obtain rfl := List.length_eq_zero_iff.mp (Nat.le_zero.mp enough)
      rfl
  | succ fuel ih =>
      cases bytes with
      | nil => rfl
      | cons byte bytes =>
          have first : ∀ other ∈ (byte :: bytes).take bytesPerLine, other < 0x100 :=
            fun other member => fits other (List.mem_of_mem_take member)
          have rest : ∀ other ∈ (byte :: bytes).drop bytesPerLine, other < 0x100 :=
            fun other member => fits other (List.mem_of_mem_drop member)
          have shorter : ((byte :: bytes).drop bytesPerLine).length ≤ fuel := by
            rw [List.length_drop]
            simp only [List.length_cons, bytesPerLine, lineLength] at enough ⊢
            omega
          rw [base64Lines, List.filter_append, kept _ first, List.filter_cons_of_neg (by decide),
            ih shorter rest]
          by_cases full : bytesPerLine ≤ (byte :: bytes).length
          · rw [← Base64.encode_append, List.take_append_drop]
            rw [List.length_take, Nat.min_eq_left full]
            rfl
          · have short := Nat.le_of_not_le full
            rw [List.drop_eq_nil_of_le short, List.take_of_length_le short, Base64.encode,
              List.append_nil]

/-- Lines of base 64 are ASCII. -/
theorem lt_of_mem_base64Lines {fuel : Nat} {bytes : List Nat}
    (fits : ∀ byte ∈ bytes, byte < 0x100) {sign : Nat}
    (member : sign ∈ base64Lines fuel bytes) : sign < 0x80 := by
  induction fuel generalizing bytes with
  | zero => cases member
  | succ fuel ih =>
      cases bytes with
      | nil => cases member
      | cons byte bytes =>
          rw [base64Lines, List.mem_append, List.mem_cons] at member
          rcases member with first | rfl | rest
          · exact (Base64.plain_of_mem_encode
              (fun other inside => fits other (List.mem_of_mem_take inside)) first).1
          · decide
          · exact ih (fun other inside => fits other (List.mem_of_mem_drop inside)) rest

end Body

/-! ## (4) Bodies -/

/-- The bytes that are carried. -/
def TransferEncoding.undo : TransferEncoding → List Nat → Option (List Nat)
  | sevenBit, bytes => if Text.isAscii bytes then some bytes else none
  | eightBit, bytes => some bytes
  | quotedPrintable, bytes => readQuoted bytes
  | base64, bytes => Base64.decode? Base64.standard (bytes.filter (· != Sign.newline))

namespace Body

variable {lines : List (List Nat)} (fits : ∀ line ∈ lines, ∀ byte ∈ line, byte < 0x100)

include fits

theorem lt_of_mem_join : ∀ byte ∈ join lines, byte < 0x100 := by
  intro byte member
  rcases List.mem_append.mp member with inside | ends
  · rcases Text.mem_joinWith inside with joint | ⟨line, part, own⟩
    · rw [List.mem_singleton.mp joint]
      decide
    · exact fits line part byte own
  · rw [List.mem_singleton.mp ends]
    decide

/-- Whichever transfer encoding is chosen, undoing it gives the lines. -/
theorem undo_ofLines :
    (ofLines lines).encoding.undo (ofLines lines).bytes = some (join lines) := by
  have bytes := lt_of_mem_join fits
  rw [ofLines]
  split
  · split
    · rename_i ascii
      exact if_pos ascii
    · rfl
  · split
    · dsimp only [TransferEncoding.undo]
      rw [filter_base64Lines (Nat.le_refl _) bytes,
        Base64.decode?_encode Base64.isFaithful_standard bytes]
    · exact readQuoted_quotedPrintable fits

/-- What is sent are bytes. -/
theorem lt_of_mem_ofLines : ∀ byte ∈ (ofLines lines).bytes, byte < 0x100 := by
  have bytes := lt_of_mem_join fits
  rw [ofLines]
  split
  · exact bytes
  · split
    · exact fun byte member => (lt_of_mem_base64Lines bytes member).trans (by decide)
    · exact fun byte member =>
        (lt_of_readQuoted (readQuoted_quotedPrintable fits) byte member).trans (by decide)

end Body

/-- **A body carries its text.** Undone with its transfer encoding and read in UTF-8, it is the
text with its line ends made alike and one at its end; and it is made of bytes. -/
theorem Body.exists_undo_ofText {text : Text} {body : Body} (made : ofText text = .ok body)
    (codes : ∀ sign ∈ text, sign < 0x110000) :
    (∃ bytes, body.encoding.undo body.bytes = some bytes ∧
      Text.ofUtf8 bytes = .ok text.unixLines.ended) ∧ ∀ byte ∈ body.bytes, byte < 0x100 := by
  obtain ⟨bytes, encoded, made⟩ := Outcome.bind_eq_ok_iff.mp made
  cases made
  have scalar : Text.IsScalar text :=
    Text.isScalar_of_hasSurrogate (Text.exists_utf8_iff.mp ⟨bytes, encoded⟩) codes
  rw [Text.utf8_eq_ok scalar.hasSurrogate] at encoded
  obtain rfl := Except.ok.inj encoded
  have fits : ∀ line ∈ lines (text.flatMap Text.utf8Bytes), ∀ byte ∈ line, byte < 0x100 := by
    intro line part byte inside
    rcases (mem_lines part inside).1 with own | rfl
    · exact scalar.utf8Bytes_lt byte own
    · decide
  refine ⟨⟨_, undo_ofLines fits, ?_⟩, lt_of_mem_ofLines fits⟩
  rw [join_lines, Text.unixLines_flatMap, Text.ended_flatMap,
    Text.ofUtf8_flatMap scalar.ended_unixLines]

end Mail

end Coursework
