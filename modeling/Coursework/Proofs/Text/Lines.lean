import Coursework.Text.Basic
import Mathlib.Data.List.Basic

/-! # Pieces and lines

Taking a text apart at a sign and putting pieces together with it undo each other, and the lines of
a text that is put together with line feeds are those of its pieces.

* **`Text.joinWith_splitAt`** and **`Text.splitAt_joinWith`** are the two directions.
* **`Text.lines_append`** and **`Text.unixLines_append`** take a text apart at a line end.
* **`Text.lines_joinWith_blank`**: pieces with a blank line between each two.
* **`Text.eq_append_of_after?`** and **`Text.eq_append_of_dropEnding?`**: what stands behind a
  known piece or before it. **`Text.isInfix_of_contains`** and **`Text.contains_of_isInfix`**: what
  a text contains.
* **`Text.ne_nil_of_mem_tail_splitAt`**: where no piece is empty. -/

namespace Coursework.Text

variable {sign : Nat} {joint : Text}

/-! ## (1) Taking apart -/

theorem splitAt_cons_self (sign : Nat) (text : Text) :
    splitAt sign (sign :: text) = [] :: splitAt sign text := by
  rw [splitAt, if_pos rfl]

theorem splitAt_ne_nil (sign : Nat) (text : Text) : splitAt sign text ≠ [] := by
  cases text with
  | nil => exact List.cons_ne_nil _ _
  | cons a text =>
      rw [splitAt]
      split
      · exact List.cons_ne_nil _ _
      · split <;> exact List.cons_ne_nil _ _

theorem exists_splitAt_eq_cons (sign : Nat) (text : Text) :
    ∃ piece pieces, splitAt sign text = piece :: pieces :=
  List.exists_cons_of_ne_nil (splitAt_ne_nil sign text)

/-- Another sign belongs to the first piece. -/
theorem splitAt_cons_of_ne {a : Nat} (other : a ≠ sign) {text piece : Text} {pieces : List Text}
    (h : splitAt sign text = piece :: pieces) :
    splitAt sign (a :: text) = (a :: piece) :: pieces := by
  rw [splitAt, if_neg other, h]

/-- The pieces before and behind a place where the sign stands. -/
theorem splitAt_append (sign : Nat) (first second : Text) :
    splitAt sign (first ++ sign :: second) = splitAt sign first ++ splitAt sign second := by
  induction first with
  | nil => exact splitAt_cons_self sign second
  | cons a first ih =>
      by_cases same : a = sign
      · rw [same, List.cons_append, splitAt_cons_self, splitAt_cons_self, ih, List.cons_append]
      · obtain ⟨piece, pieces, hfirst⟩ := exists_splitAt_eq_cons sign first
        rw [hfirst, List.cons_append] at ih
        rw [List.cons_append, splitAt_cons_of_ne same ih, splitAt_cons_of_ne same hfirst,
          List.cons_append]

/-- A text without the sign is one piece. -/
theorem splitAt_of_not_mem {text : Text} (absent : sign ∉ text) : splitAt sign text = [text] := by
  induction text with
  | nil => rfl
  | cons a text ih =>
      rw [List.mem_cons, not_or] at absent
      exact splitAt_cons_of_ne (Ne.symm absent.1) (ih absent.2)

/-- What stands before the first place belongs to the first piece. -/
theorem splitAt_append_of_not_mem {first second piece : Text} {pieces : List Text}
    (absent : sign ∉ first) (h : splitAt sign second = piece :: pieces) :
    splitAt sign (first ++ second) = (first ++ piece) :: pieces := by
  induction first with
  | nil => exact h
  | cons a first ih =>
      rw [List.mem_cons, not_or] at absent
      exact splitAt_cons_of_ne (Ne.symm absent.1) (ih absent.2)

/-- A text with the sign has a last place where it stands. -/
theorem exists_last_of_mem {text : Text} (member : sign ∈ text) :
    ∃ before last, text = before ++ sign :: last ∧ sign ∉ last := by
  obtain ⟨last, before, hreverse, absent⟩ :=
    List.eq_append_cons_of_mem (List.mem_reverse.mpr member)
  refine ⟨before.reverse, last.reverse, ?_, mt List.mem_reverse.mp absent⟩
  rw [← List.reverse_reverse text, hreverse, List.reverse_append, List.reverse_cons,
    List.append_assoc, List.singleton_append]

/-- No piece has the sign. -/
theorem not_mem_of_mem_splitAt {text piece : Text} (member : piece ∈ splitAt sign text) :
    sign ∉ piece := by
  induction text generalizing piece with
  | nil =>
      rw [List.mem_singleton.mp member]
      exact List.not_mem_nil
  | cons a text ih =>
      by_cases same : a = sign
      · rw [same, splitAt_cons_self, List.mem_cons] at member
        rcases member with rfl | member
        · exact List.not_mem_nil
        · exact ih member
      · obtain ⟨first, others, htext⟩ := exists_splitAt_eq_cons sign text
        rw [splitAt_cons_of_ne same htext, List.mem_cons] at member
        rw [htext] at ih
        rcases member with rfl | member
        · rw [List.mem_cons, not_or]
          exact ⟨Ne.symm same, ih List.mem_cons_self⟩
        · exact ih (List.mem_cons_of_mem _ member)

/-- The signs of the pieces are signs of the text. -/
theorem mem_of_mem_splitAt {text piece : Text} {a : Nat} (member : piece ∈ splitAt sign text)
    (h : a ∈ piece) : a ∈ text := by
  induction text generalizing piece with
  | nil =>
      rw [List.mem_singleton.mp member] at h
      exact h
  | cons b text ih =>
      by_cases same : b = sign
      · rw [same, splitAt_cons_self, List.mem_cons] at member
        rcases member with rfl | member
        · exact absurd h List.not_mem_nil
        · exact List.mem_cons_of_mem _ (ih member h)
      · obtain ⟨first, others, htext⟩ := exists_splitAt_eq_cons sign text
        rw [splitAt_cons_of_ne same htext, List.mem_cons] at member
        rw [htext] at ih
        rcases member with rfl | member
        · rcases List.mem_cons.mp h with rfl | h
          · exact List.mem_cons_self
          · exact List.mem_cons_of_mem _ (ih List.mem_cons_self h)
        · exact List.mem_cons_of_mem _ (ih (List.mem_cons_of_mem _ member) h)

/-- Behind the first piece of a text that does not end with the sign none is empty, if the sign
does not stand twice in a row; nor is the first unless the text begins with the sign. -/
theorem ne_nil_of_mem_tail_splitAt {text : Text} (filled : text ≠ [])
    (ends : text.getLast? ≠ some sign) (single : ¬[sign, sign] <:+: text) :
    (∀ piece ∈ (splitAt sign text).tail, piece ≠ []) ∧
      (text.head? ≠ some sign → ∀ piece ∈ splitAt sign text, piece ≠ []) := by
  -- only the first piece of what follows depends on how that begins
  induction text with
  | nil => exact absurd rfl filled
  | cons first text ih =>
      have later : text ≠ [] → (∀ piece ∈ (splitAt sign text).tail, piece ≠ []) ∧
          (text.head? ≠ some sign → ∀ piece ∈ splitAt sign text, piece ≠ []) := fun more => by
        refine ih more ?_ fun twice => single (twice.trans (List.suffix_cons _ _).isInfix)
        obtain ⟨next, rest, rfl⟩ := List.exists_cons_of_ne_nil more
        rwa [List.getLast?_cons_cons] at ends
      by_cases same : first = sign
      · subst same
        have more : text ≠ [] := by
          rintro rfl
          exact ends rfl
        have other : text.head? ≠ some first := fun next => by
          obtain ⟨rest, rfl⟩ := List.head?_eq_some_iff.mp next
          exact single ⟨[], rest, rfl⟩
        rw [splitAt_cons_self]
        exact ⟨(later more).2 other, fun h => absurd rfl h⟩
      · obtain ⟨piece, pieces, hpieces⟩ := exists_splitAt_eq_cons sign text
        have others : ∀ piece ∈ pieces, piece ≠ [] := by
          by_cases more : text = []
          · subst more
            obtain ⟨-, rfl⟩ := List.cons.inj hpieces
            exact List.forall_mem_nil _
          · have := (later more).1
            rwa [hpieces] at this
        rw [splitAt_cons_of_ne same hpieces]
        exact ⟨others, fun _ => List.forall_mem_cons.mpr ⟨List.cons_ne_nil _ _, others⟩⟩

/-! ## (2) Putting together -/

@[simp] theorem joinWith_nil (joint : Text) : joinWith joint [] = [] := rfl

@[simp] theorem joinWith_singleton (joint piece : Text) : joinWith joint [piece] = piece := rfl

theorem joinWith_cons_cons (joint piece next : Text) (pieces : List Text) :
    joinWith joint (piece :: next :: pieces) = piece ++ joint ++ joinWith joint (next :: pieces) :=
  rfl

/-- Every further piece stands behind a joint. -/
theorem joinWith_cons (joint piece : Text) (pieces : List Text) :
    joinWith joint (piece :: pieces) = piece ++ pieces.flatMap (joint ++ ·) := by
  induction pieces generalizing piece with
  | nil => rw [joinWith_singleton, List.flatMap_nil, List.append_nil]
  | cons next pieces ih =>
      rw [joinWith_cons_cons, ih, List.flatMap_cons, List.append_assoc, List.append_assoc]

/-- The signs of joined pieces are those of the pieces and of the joint. -/
theorem mem_joinWith {pieces : List Text} (h : sign ∈ joinWith joint pieces) :
    sign ∈ joint ∨ ∃ piece ∈ pieces, sign ∈ piece := by
  cases pieces with
  | nil => exact absurd h List.not_mem_nil
  | cons piece pieces =>
      rw [joinWith_cons, List.mem_append, List.mem_flatMap] at h
      rcases h with h | ⟨other, hother, h⟩
      · exact .inr ⟨piece, List.mem_cons_self, h⟩
      · rcases List.mem_append.mp h with h | h
        · exact .inl h
        · exact .inr ⟨other, List.mem_cons_of_mem _ hother, h⟩

/-- A joined text has the signs of its pieces. -/
theorem mem_joinWith_of_mem {joint piece : Text} {pieces : List Text} (member : piece ∈ pieces)
    (h : sign ∈ piece) : sign ∈ joinWith joint pieces := by
  induction pieces with
  | nil => cases member
  | cons first pieces ih =>
      rcases List.mem_cons.mp member with rfl | member
      · rw [joinWith_cons]
        exact List.mem_append_left _ h
      · cases pieces with
        | nil => cases member
        | cons next pieces =>
            rw [joinWith_cons_cons]
            exact List.mem_append_right _ (ih member)

/-- The pieces of a text are joined to the text. -/
theorem joinWith_splitAt (sign : Nat) (text : Text) :
    joinWith [sign] (splitAt sign text) = text := by
  induction text with
  | nil => rfl
  | cons a text ih =>
      obtain ⟨piece, pieces, htext⟩ := exists_splitAt_eq_cons sign text
      rw [htext] at ih
      by_cases same : a = sign
      · rw [same, splitAt_cons_self, htext, joinWith_cons_cons, ih]
        rfl
      · rw [splitAt_cons_of_ne same htext, joinWith_cons, List.cons_append, ← joinWith_cons, ih]

/-- Pieces without the sign are found again in the joined text. -/
theorem splitAt_joinWith {pieces : List Text} (some : pieces ≠ [])
    (absent : ∀ piece ∈ pieces, sign ∉ piece) :
    splitAt sign (joinWith [sign] pieces) = pieces := by
  induction pieces with
  | nil => exact absurd rfl some
  | cons piece pieces ih =>
      obtain ⟨hpiece, hpieces⟩ := List.forall_mem_cons.mp absent
      cases pieces with
      | nil => exact splitAt_of_not_mem hpiece
      | cons next pieces =>
          rw [joinWith_cons_cons, List.append_assoc, List.singleton_append, splitAt_append,
            splitAt_of_not_mem hpiece, ih (List.cons_ne_nil _ _) hpieces, List.singleton_append]

/-! ## (3) Lines -/

theorem lines_append (first second : Text) :
    (first ++ Sign.newline :: second).lines = first.lines ++ second.lines :=
  splitAt_append _ _ _

theorem lines_ne_nil (text : Text) : text.lines ≠ [] := splitAt_ne_nil _ _

/-- Pieces with a blank line between each two. -/
theorem lines_joinWith_blank (piece : Text) (pieces : List Text) :
    (joinWith [Sign.newline, Sign.newline] (piece :: pieces)).lines =
      piece.lines ++ pieces.flatMap ([] :: ·.lines) := by
  induction pieces generalizing piece with
  | nil => rw [joinWith_singleton, List.flatMap_nil, List.append_nil]
  | cons next pieces ih =>
      rw [joinWith_cons_cons, List.append_assoc, List.cons_append, lines_append,
        List.singleton_append, List.flatMap_cons, ← List.nil_append (Sign.newline :: _),
        lines_append, ih]
      rfl

/-! ## (4) Carriage returns -/

theorem unixLines_return {text : Text} (alone : text.head? ≠ some Sign.newline) :
    unixLines (Sign.carriageReturn :: text) = Sign.newline :: unixLines text := by
  rw [unixLines]
  rintro rest rfl
  exact alone rfl

theorem unixLines_cons {a : Nat} (other : a ≠ Sign.carriageReturn) (text : Text) :
    unixLines (a :: text) = a :: unixLines text := by
  rw [unixLines]
  · rintro rest rfl
    exact absurd rfl other
  · rintro rfl
    exact absurd rfl other

/-- Line ends are made alike before and behind a place that is not within one. -/
theorem unixLines_append {first second : Text}
    (apart : first.getLast? = some Sign.carriageReturn → second.head? ≠ some Sign.newline) :
    unixLines (first ++ second) = unixLines first ++ unixLines second := by
  have shorter {a : Nat} {text : Text}
      (apart : (a :: text).getLast? = some Sign.carriageReturn → second.head? ≠ some Sign.newline) :
      text.getLast? = some Sign.carriageReturn → second.head? ≠ some Sign.newline := by
    intro h
    exact apart (by rw [List.getLast?_cons, h, Option.getD_some])
  induction first using unixLines.induct with
  | case1 text ih =>
      rw [List.cons_append, List.cons_append, unixLines, unixLines, ih (shorter (shorter apart)),
        List.cons_append]
  | case2 text alone ih =>
      -- a carriage return alone is one before the second text as well
      have htext : text.head? ≠ some Sign.newline := by
        intro h
        obtain ⟨rest, rfl⟩ := List.head?_eq_some_iff.mp h
        exact alone rest rfl
      have hhead : (text ++ second).head? ≠ some Sign.newline := by
        cases text with
        | nil => exact apart rfl
        | cons b text => exact htext
      rw [List.cons_append, unixLines_return hhead, unixLines_return htext, ih (shorter apart),
        List.cons_append]
  | case3 a text _ other ih =>
      rw [List.cons_append, unixLines_cons other, unixLines_cons other, ih (shorter apart),
        List.cons_append]
  | case4 => rfl

/-- A text without carriage returns stays as it is. -/
theorem unixLines_of_not_mem {text : Text} (absent : Sign.carriageReturn ∉ text) :
    unixLines text = text := by
  induction text with
  | nil => rfl
  | cons a text ih =>
      rw [List.mem_cons, not_or] at absent
      rw [unixLines_cons (Ne.symm absent.1), ih absent.2]

/-- The signs of a text whose line ends are made alike are its own and line feeds. -/
theorem mem_unixLines {text : Text} {a : Nat} (h : a ∈ unixLines text) :
    a ∈ text ∨ a = Sign.newline := by
  induction text using unixLines.induct with
  | case1 text ih =>
      rw [unixLines, List.mem_cons] at h
      rcases h with rfl | h
      · exact .inr rfl
      · exact (ih h).imp_left fun h => List.mem_cons_of_mem _ (List.mem_cons_of_mem _ h)
  | case2 text alone ih =>
      rw [unixLines.eq_2 _ alone, List.mem_cons] at h
      rcases h with rfl | h
      · exact .inr rfl
      · exact (ih h).imp_left (List.mem_cons_of_mem _)
  | case3 b text _ other ih =>
      rw [unixLines_cons other, List.mem_cons] at h
      rcases h with rfl | h
      · exact .inl List.mem_cons_self
      · exact (ih h).imp_left (List.mem_cons_of_mem _)
  | case4 => exact absurd h List.not_mem_nil

/-! ## (5) Known pieces -/

/-- An end of a text is one of the text with a sign before it. -/
theorem suffix_cons_of {rest text : Text} (h : rest <:+ text) (sign : Nat) :
    rest <:+ sign :: text :=
  h.trans (List.suffix_cons sign text)

/-- What follows a piece stands behind it. -/
theorem eq_append_of_after? {text piece rest : Text} (h : text.after? piece = some rest) :
    text = piece ++ rest := by
  induction piece generalizing text with
  | nil =>
      rw [after?.eq_1] at h
      exact Option.some.inj h
  | cons b piece ih =>
      cases text with
      | nil => cases h
      | cons a text =>
          rw [after?] at h
          split at h
          · rename_i same
            rw [same, ih h, List.cons_append]
          · cases h

theorem after?_suffix {text piece rest : Text} (h : text.after? piece = some rest) :
    rest <:+ text :=
  ⟨piece, (eq_append_of_after? h).symm⟩

/-- What precedes a piece at the end stands before it. -/
theorem eq_append_of_dropEnding? {text piece front : Text}
    (h : text.dropEnding? piece = some front) : text = front ++ piece := by
  obtain ⟨rest, found, rfl⟩ := Option.map_eq_some_iff.mp h
  rw [← List.reverse_inj, eq_append_of_after? found, List.reverse_append, List.reverse_reverse]

theorem afterFirst?_suffix {text piece rest : Text} (h : afterFirst? piece text = some rest) :
    rest <:+ text := by
  induction text with
  | nil =>
      rw [afterFirst?] at h
      split at h
      · obtain rfl := Option.some.inj h
        exact List.suffix_rfl
      · cases h
  | cons a text ih =>
      rw [afterFirst?] at h
      split at h
      · rename_i found
        rw [← Option.some.inj h]
        exact after?_suffix found
      · exact suffix_cons_of (ih h) a

/-- A piece that a text contains stands in it. -/
theorem isInfix_of_contains {text piece : Text} (h : contains text piece = true) :
    piece <:+: text := by
  rw [contains, Option.isSome_iff_exists] at h
  obtain ⟨rest, h⟩ := h
  induction text with
  | nil =>
      rw [afterFirst?] at h
      split at h
      · rename_i empty
        obtain rfl := List.isEmpty_iff.mp empty
        exact List.infix_rfl
      · cases h
  | cons a text ih =>
      rw [afterFirst?] at h
      split at h
      · rename_i found
        exact ⟨[], _, (eq_append_of_after? found).symm⟩
      · exact (ih h).trans (List.suffix_cons a text).isInfix

/-- Something follows a piece exactly if the text begins with it. -/
theorem isSome_after? (text piece : Text) : (text.after? piece).isSome = text.startsWith piece := by
  induction piece generalizing text with
  | nil => cases text <;> rfl
  | cons b piece ih =>
      cases text with
      | nil => rfl
      | cons a text =>
          rw [after?, startsWith]
          by_cases same : a = b
          · rw [if_pos same, ih, beq_iff_eq.mpr same, Bool.true_and]
          · rw [if_neg same, beq_eq_false_iff_ne.mpr same]
            rfl

theorem startsWith_singleton (text : Text) (sign : Nat) :
    startsWith text [sign] = (text.head? == some sign) := by
  cases text with
  | nil => rfl
  | cons first text => simp [startsWith]

/-- A text with enough of a sign at its start begins with so many. -/
theorem startsWith_replicate {mark count : Nat} {text : Text}
    (enough : count ≤ (text.takeWhile (· == mark)).length) :
    text.startsWith (List.replicate count mark) = true := by
  induction count generalizing text with
  | zero => cases text <;> rfl
  | succ count ih =>
      cases text with
      | nil => cases enough
      | cons sign text =>
          rw [List.takeWhile_cons] at enough
          split at enough
          · rename_i same
            rw [List.replicate_succ, Text.startsWith, same, ih (Nat.le_of_succ_le_succ enough)]
            rfl
          · cases enough

theorem endsWith_singleton (text : Text) (sign : Nat) :
    endsWith text [sign] = (text.getLast? == some sign) := by
  rw [endsWith, List.reverse_singleton, startsWith_singleton, List.head?_reverse]

theorem after?_append (piece rest : Text) : after? (piece ++ rest) piece = some rest := by
  induction piece with
  | nil => cases rest <;> rfl
  | cons sign piece ih => rw [List.cons_append, after?, if_pos rfl, ih]

theorem isSome_afterFirst?_append (before piece rest : Text) :
    (afterFirst? piece (before ++ (piece ++ rest))).isSome = true := by
  induction before with
  | nil =>
      have found := after?_append piece rest
      rw [List.nil_append]
      cases whole : piece ++ rest with
      | nil =>
          rw [(List.append_eq_nil_iff.mp whole).1]
          rfl
      | cons sign text =>
          rw [whole] at found
          rw [afterFirst?, found]
          rfl
  | cons sign before ih =>
      rw [List.cons_append, afterFirst?]
      split
      · rfl
      · exact ih

/-- A text contains what stands in it. -/
theorem contains_of_isInfix {text piece : Text} (within : piece <:+: text) :
    contains text piece = true := by
  obtain ⟨before, rest, rfl⟩ := within
  rw [List.append_assoc]
  exact isSome_afterFirst?_append before piece rest

end Coursework.Text
