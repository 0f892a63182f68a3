import Coursework.Proofs.Mail.Keeping

/-! # Lines that go on

The lines of a field are the field's own: the first begins with its name, and each other begins with
white space. What is written keeps this, where a piece that is put at the beginning of a line is
behind white space of the line before it or begins with white space itself.

* **`Mail.Unfolds`** are the lines of one field.
* **`Mail.Fold.Begun`** is what is known of a field in the making, **`Mail.Fold.Slack`** that its
  line is not too long but for white space.
* **`Mail.Fold.keepsPieces_freeText`** and **`Mail.Fold.keepsPieces_settled`** are the two classes
  of pieces that keep this; those of the second are **`Mail.Piece.isSettled`**, and written
  whatever else the field holds: **`Mail.Fold.exists_piece_of_isSettled`**. -/

namespace Coursework.Mail

open Fold (stolen)
open Text (IsCoded)

/-! ## (1) The lines of a field -/

/-- Whether a line goes on with the field of the line before it. -/
def continues (line : Text) : Bool := line.head?.any isGap

theorem continues_append {line : Text} (more : continues line = true) (text : Text) :
    continues (line ++ text) = true := by
  cases line with
  | nil => cases more
  | cons => exact more

theorem continues_take {line : Text} {count : Nat} (more : continues line = true)
    (some : 0 < count) : continues (line.take count) = true := by
  rw [continues, List.head?_take, if_neg some.ne']
  exact more

theorem continues_stolen_append {line text : Text}
    (opens : stolen line ≠ [] ∨ continues text = true) :
    continues (stolen line ++ text) = true := by
  cases gaps : stolen line with
  | nil =>
      rw [gaps] at opens
      exact opens.resolve_left (absurd rfl)
  | cons gap rest =>
      have blank := isGaps_stolen line gap (by rw [gaps]; exact List.mem_cons_self)
      exact blank

/-- The lines of one field, the last first: the first of them begins with a label, the others with
white space. -/
inductive Unfolds (label : Text) : List Text → Prop
  /-- The line with the label. -/
  | first {line : Text} (begins : label <+: line) : Unfolds label [line]
  /-- A line that goes on. -/
  | next {line : Text} {lines : List Text} (more : continues line = true)
    (before : Unfolds label lines) : Unfolds label (line :: lines)

/-- A label: white space at the end of a line is none of it. -/
structure IsLabel (label : Text) : Prop where
  /-- There is some. -/
  filled : label ≠ []
  /-- It does not end with white space. -/
  solid : stolen label = []

section Unfolds

variable {label line : Text} {lines : List Text} (unfolds : Unfolds label (line :: lines))

include unfolds

theorem Unfolds.append (text : Text) : Unfolds label ((line ++ text) :: lines) := by
  cases unfolds with
  | first begins => exact .first (begins.trans (List.prefix_append line text))
  | next more before => exact .next (continues_append more text) before

/-- A line may be cut behind the label, or behind the white space that it begins with. -/
theorem Unfolds.take {count : Nat} (some : 0 < count) (behind : lines = [] → label.length ≤ count) :
    Unfolds label (line.take count :: lines) := by
  cases unfolds with
  | first begins => exact .first (List.prefix_take_iff.mpr ⟨begins, behind rfl⟩)
  | next more before => exact .next (continues_take more some) before

variable (isLabel : IsLabel label)

include isLabel

theorem Unfolds.line_ne_nil : line ≠ [] := by
  cases unfolds with
  | first begins =>
      rintro rfl
      exact isLabel.filled (List.prefix_nil.mp begins)
  | next more before =>
      rintro rfl
      cases more

/-- White space at the end of a line may be moved to another. -/
theorem Unfolds.take_stolen (long : 2 ≤ line.length) :
    Unfolds label (line.take (line.length - (stolen line).length) :: lines) := by
  have short := length_stolen_le line
  refine unfolds.take (by omega) ?_
  rintro rfl
  cases unfolds with
  | next _ before => cases before
  | first begins =>
      have within := begins.length_le
      cases gaps : stolen line with
      | nil => exact within
      | cons gap rest =>
          have other : label.length ≠ line.length := by
            intro same
            have solid := isLabel.solid
            rw [begins.eq_of_length same, gaps] at solid
            cases solid
          rw [gaps] at short
          omega

end Unfolds

namespace Fold

/-! ## (2) Fields in the making -/

/-- All lines are ink. -/
def Inked (fold : Fold) : Prop := ∀ line ∈ fold.line :: fold.finished, IsInk line

/-- What is known of a field in the making: the lines are ink and those of one field, and its last
encoded word begins behind the label or the white space of its line. -/
structure Begun (label : Text) (fold : Fold) : Prop where
  /-- The lines are ink. -/
  inked : Inked fold
  /-- They are the lines of one field. -/
  unfolds : Unfolds label (fold.line :: fold.finished)
  /-- An encoded word is not the beginning of a line. -/
  place : ∀ start, fold.word = some start →
    0 < start ∧ (fold.finished = [] → label.length ≤ start)

/-- The line is not too long but for white space at its end. -/
def Slack (fold : Fold) : Prop :=
  ∃ body gaps, fold.line = body ++ gaps ∧ body.length ≤ lineLimit ∧ IsGaps gaps

theorem inked_iff {fold : Fold} :
    Inked fold ↔ IsInk fold.line ∧ ∀ line ∈ fold.finished, IsInk line := List.forall_mem_cons

theorem inked_empty : Inked {} :=
  inked_iff.mpr ⟨fun _ member => absurd member List.not_mem_nil, List.forall_mem_nil _⟩

theorem Inked.put {fold : Fold} {text : Text} (inked : Inked fold) (ink : IsInk text) :
    Inked (fold.put text) :=
  inked_iff.mpr ⟨isInk_append.mpr ⟨(inked_iff.mp inked).1, ink⟩, (inked_iff.mp inked).2⟩

theorem Inked.wrapped_put {fold : Fold} {text : Text} (inked : Inked fold) (ink : IsInk text) :
    Inked (fold.wrapped.put text) := by
  obtain ⟨first, others⟩ := inked_iff.mp inked
  exact inked_iff.mpr ⟨isInk_append.mpr ⟨(isGaps_stolen _).isInk, ink⟩,
    List.forall_mem_cons.mpr ⟨first.of_subset (List.take_subset _ _), others⟩⟩

theorem keeps_inked : Keeps Inked where
  isInk inked := (inked_iff.mp inked).1
  flag _ inked := inked
  forget inked := inked
  mark inked := inked
  put inked ink _ := inked.put ink
  newLine inked _ := inked_iff.mpr
    ⟨List.forall_mem_singleton.mpr (isInk_of_isGap (by decide)), inked⟩
  fill inked gap _ := inked.wrapped_put (List.forall_mem_singleton.mpr (isInk_of_isGap gap))
  cut inked _ := inked_iff.mpr
    ⟨(inked_iff.mp inked).1.of_subset (List.take_subset _ _), (inked_iff.mp inked).2⟩

section Begun

variable {label : Text} (isLabel : IsLabel label)

include isLabel

theorem Begun.wrapped_put {fold : Fold} {text : Text} (begun : Begun label fold) (ink : IsInk text)
    (long : 2 ≤ fold.line.length) (opens : stolen fold.line ≠ [] ∨ continues text = true) :
    Begun label (fold.wrapped.put text) where
  inked := begun.inked.wrapped_put ink
  unfolds := .next (continues_stolen_append opens) (begun.unfolds.take_stolen isLabel long)
  place start word := ⟨(begun.place start word).1, fun none => by cases none⟩

omit isLabel in
theorem Begun.put {fold : Fold} {text : Text} (begun : Begun label fold) (ink : IsInk text) :
    Begun label (fold.put text) where
  inked := begun.inked.put ink
  unfolds := begun.unfolds.append text
  place := begun.place

omit isLabel in
/-- Whether words are encoded, and may be, makes no difference. -/
theorem Begun.flagged {fold : Fold} (begun : Begun label fold) (encoding : Bool) (sealed : Nat) :
    Begun label { fold with encoding, sealed } := ⟨begun.inked, begun.unfolds, begun.place⟩

omit isLabel in
theorem Begun.forget {fold : Fold} (begun : Begun label fold) :
    Begun label { fold with word := none } :=
  ⟨begun.inked, begun.unfolds, fun _ none => by cases none⟩

theorem keeps_begun : Keeps (Begun label) where
  isInk begun := (inked_iff.mp begun.inked).1
  flag encoding begun := begun.flagged encoding _
  forget begun := begun.forget
  mark {fold} begun := by
    refine ⟨begun.inked, begun.unfolds, fun start word => ?_⟩
    cases place : fold.word with
    | some found =>
        rw [place] at word
        exact begun.place start (place.trans word)
    | none =>
        rw [place] at word
        obtain rfl := Option.some.inj word
        refine ⟨List.length_pos_iff.mpr (begun.unfolds.line_ne_nil isLabel), fun single => ?_⟩
        have unfolds := begun.unfolds
        dsimp only at single
        rw [single] at unfolds
        cases unfolds with
        | first begins => exact begins.length_le
        | next _ before => cases before
  put begun ink _ := begun.put ink
  newLine {fold word} begun places := by
    refine ⟨keeps_inked.newLine begun.inked places, .next rfl begun.unfolds, fun start place => ?_⟩
    refine ⟨?_, fun none => by cases none⟩
    rcases places with rfl | rfl
    · exact (begun.place start place).1
    · rw [← Option.some.inj place]
      exact Nat.one_pos
  fill begun gap full :=
    begun.wrapped_put isLabel (List.forall_mem_singleton.mpr (isInk_of_isGap gap))
      (full ▸ by decide) (.inr gap)
  cut begun word :=
    ⟨keeps_inked.cut begun.inked word,
      begun.unfolds.take (begun.place _ word).1 (begun.place _ word).2, begun.place⟩

end Begun

/-- A line that is too long ends with white space. -/
theorem Slack.stolen_ne_nil {fold : Fold} (slack : Slack fold)
    (long : lineLimit < fold.line.length) : stolen fold.line ≠ [] := by
  obtain ⟨body, gaps, line, short, blank⟩ := slack
  have filled : gaps ≠ [] := by
    rintro rfl
    rw [line, List.append_nil] at long
    exact absurd short (Nat.not_le_of_lt long)
  rw [line, stolen, List.getLast?_append_of_ne_nil _ filled,
    List.getLast?_eq_some_getLast filled]
  dsimp only
  rw [if_pos (blank _ (List.getLast_mem filled))]
  exact List.cons_ne_nil _ _

theorem slack_of_length {fold : Fold} (short : fold.line.length ≤ lineLimit) : Slack fold :=
  ⟨fold.line, [], (List.append_nil _).symm, short, List.forall_mem_nil _⟩

theorem slack_wrapped_put {fold : Fold} {text : Text} (short : text.length + 1 ≤ lineLimit) :
    Slack (fold.wrapped.put text) := by
  refine slack_of_length ?_
  have := length_stolen_le fold.line
  change (stolen fold.line ++ text).length ≤ lineLimit
  rw [List.length_append]
  omega

/-- That a begun field has no line that is too long but for white space is kept as well. -/
theorem keeps_slack {label : Text} (isLabel : IsLabel label) :
    Keeps fun fold => Begun label fold ∧ Slack fold where
  isInk holds := (keeps_begun isLabel).isInk holds.1
  flag encoding holds := ⟨(keeps_begun isLabel).flag encoding holds.1, holds.2⟩
  forget holds := ⟨(keeps_begun isLabel).forget holds.1, holds.2⟩
  mark holds := ⟨(keeps_begun isLabel).mark holds.1, holds.2⟩
  put {fold text} holds ink room := by
    refine ⟨(keeps_begun isLabel).put holds.1 ink room, ?_⟩
    rcases room with fits | more
    · refine slack_of_length ?_
      have fits := of_decide_eq_true fits
      rwa [← List.length_append] at fits
    · obtain ⟨body, gaps, line, short, blank⟩ := holds.2
      refine ⟨body, gaps ++ text, ?_, short, List.forall_mem_append.mpr ⟨blank, more⟩⟩
      rw [put, line, List.append_assoc]
  newLine holds places := ⟨(keeps_begun isLabel).newLine holds.1 places,
    slack_of_length (show [Sign.space].length ≤ lineLimit by decide)⟩
  fill holds gap full := ⟨(keeps_begun isLabel).fill holds.1 gap full,
    slack_wrapped_put (show 1 + 1 ≤ lineLimit by decide)⟩
  cut {fold start} holds word := by
    obtain ⟨body, gaps, line, short, blank⟩ := holds.2
    refine ⟨(keeps_begun isLabel).cut holds.1 word, body.take start,
      gaps.take (start - body.length), ?_, ?_, fun sign member => ?_⟩
    · dsimp only
      rw [line, List.take_append]
    · exact (List.length_take_le' _ _).trans short
    · exact blank sign (List.mem_of_mem_take member)

/-! ## (3) Classes of pieces -/

/-- Any pieces are written in ink. -/
theorem keepsPieces_inked : KeepsPieces (fun piece => IsCoded piece.written) Inked where
  toKeeps := keeps_inked
  parts {kind parts} coded part member := coded.of_subset fun sign own =>
    Piece.writtenAll_subset_written kind parts (Piece.mem_writtenAll.mpr ⟨part, member, own⟩)
  coded coded := coded
  own inked _ ink _ _ _ := inked.wrapped_put ink
  overrun inked _ ink := inked.put ink
  alone inked _ _ _ start _ := by
    have ink := (inked_iff.mp (start inked_empty)).1
    split
    · exact inked.put ink
    · exact inked.wrapped_put ink
  deeper inked _ _ := inked
  higher _ inked := inked

end Fold

namespace Piece

/-- Whether a piece may have a line of its own: it is known whether it begins with white space, and
if so it does. -/
def opensLine (piece : Piece) : Bool :=
  match piece.beginsBlank? with
  | none => false
  | some blank => !blank || continues piece.written

mutual
/-- Whether every piece of a tree may have a line of its own, and every leaf has room on it. -/
def isSettled : Piece → Bool
  | leaf kind text =>
    opensLine (leaf kind text) && (leaf kind text).written.length + 1 ≤ lineLimit
  | node kind parts => opensLine (node kind parts) && areSettled parts
/-- Whether this holds of all pieces. -/
def areSettled : List Piece → Bool
  | [] => true
  | piece :: pieces => isSettled piece && areSettled pieces
end

theorem areSettled_iff {pieces : List Piece} :
    areSettled pieces = true ↔ ∀ piece ∈ pieces, piece.isSettled = true := by
  induction pieces with
  | nil => simp [areSettled]
  | cons piece pieces ih => rw [areSettled, Bool.and_eq_true, ih, List.forall_mem_cons]

theorem allFree_iff {pieces : List Piece} :
    allFree pieces = true ↔ ∀ piece ∈ pieces, piece.isFree = true := by
  induction pieces with
  | nil => simp [allFree]
  | cons piece pieces ih => rw [allFree, Bool.and_eq_true, ih, List.forall_mem_cons]

theorem opensLine_of_isSettled {piece : Piece} (settled : piece.isSettled = true) :
    piece.opensLine = true := by
  cases piece with
  | leaf kind text =>
      rw [isSettled, Bool.and_eq_true] at settled
      exact settled.1
  | node kind parts =>
      rw [isSettled, Bool.and_eq_true] at settled
      exact settled.1

theorem continues_of_opensLine {piece : Piece} (opens : piece.opensLine = true)
    (blank : piece.beginsBlank? = some true) : continues piece.written = true := by
  rw [opensLine, blank] at opens
  exact opens

theorem exists_beginsBlank?_of_opensLine {piece : Piece} (opens : piece.opensLine = true) :
    ∃ blank, piece.beginsBlank? = some blank := by
  rw [opensLine] at opens
  split at opens
  · cases opens
  · rename_i blank known
    exact ⟨blank, known⟩

theorem opensLine_decodedWord {text : Text} (filled : text ≠ []) :
    (decodedWord text).opensLine = true := by
  obtain ⟨sign, rest, rfl⟩ := List.exists_cons_of_ne_nil filled
  rw [opensLine, written_decodedWord, decodedWord, List.length_cons, gapsAndWords]
  cases gap : isGap sign
  · rfl
  · exact gap

/-- Free text may have a line of its own where it does not consist of white space that is dropped
or of an empty word. -/
theorem IsFreeToken.continues {piece : Piece} (token : piece.IsFreeToken)
    (filled : piece.written ≠ []) (blank : piece.beginsBlank? = some true) :
    continues piece.written = true := by
  cases token with
  | word text => cases blank
  | blank opens text => exact opens
  | joint text => exact absurd rfl filled
  | decoded text =>
      rw [written_decodedWord] at filled
      exact continues_of_opensLine (opensLine_decodedWord filled) blank

theorem IsFreeToken.isFree {piece : Piece} (token : piece.IsFreeToken) : piece.isFree = true := by
  cases token with
  | word | blank | joint => rfl
  | decoded text =>
      have leaves : ∀ fuel text, allFree (gapsAndWords fuel text) = true := by
        intro fuel
        induction fuel with
        | zero => exact fun _ => rfl
        | succ fuel ih =>
            intro text
            cases text with
            | nil => rfl
            | cons sign rest =>
                rw [gapsAndWords]
                split <;> exact ih _
      rw [decodedWord, Piece.isFree, leaves]
      rfl

end Piece

namespace Fold

/-- Free text stays in the lines of its field. -/
theorem keepsPieces_freeText {label : Text} (isLabel : IsLabel label) :
    KeepsPieces (fun piece => piece.IsFreeToken ∧ IsCoded piece.written)
      fun fold => (Begun label fold ∧ Slack fold) ∧ fold.sealed = 0 where
  toKeeps := (keeps_slack isLabel).and_sealed (· = 0)
  parts {kind parts} member part inside := by
    have token := member.1
    refine ⟨?_, keepsPieces_inked.parts member.2 part inside⟩
    cases token with
    | decoded text => exact isFreeToken_gapsAndWords part inside
  coded member := member.2
  own {fold piece} holds member ink long room opens := by
    have short : piece.written.length + 1 ≤ lineLimit :=
      room.resolve_right fun inside => inside.1 holds.2
    have full : lineLimit < fold.line.length + piece.written.length :=
      Nat.lt_of_not_le (of_decide_eq_false long)
    refine ⟨⟨holds.1.1.wrapped_put isLabel ink (by omega) ?_, slack_wrapped_put short⟩, holds.2⟩
    by_cases filled : piece.written = []
    · rw [filled] at full
      exact .inl (holds.1.2.stolen_ne_nil full)
    · exact opens.imp_right (member.1.continues filled)
  overrun holds inside := absurd holds.2 inside
  alone _ _ member fixed := by
    rw [member.1.isFree] at fixed
    cases fixed
  deeper _ member fixed := by
    rw [member.1.isFree] at fixed
    cases fixed
  higher before within := ⟨⟨within.1.1.flagged _ _, within.1.2⟩, before.2⟩

/-- So do settled constructs where nothing is encoded. -/
theorem keepsPieces_settled {label : Text} (isLabel : IsLabel label) :
    KeepsPieces (fun piece => piece.isSettled = true ∧ IsCoded piece.written)
      fun fold => Begun label fold ∧ fold.sealed ≠ 0 where
  toKeeps := (keeps_begun isLabel).and_sealed (· ≠ 0)
  parts {kind parts} member part inside := by
    have settled := member.1
    rw [Piece.isSettled, Bool.and_eq_true, Piece.areSettled_iff] at settled
    exact ⟨settled.2 part inside, keepsPieces_inked.parts member.2 part inside⟩
  coded member := member.2
  own {fold piece} holds member ink long room opens := by
    have short : piece.written.length + 1 ≤ lineLimit := by
      rcases room with short | ⟨-, kind, text, rfl⟩
      · exact short
      · have settled := member.1
        rw [Piece.isSettled, Bool.and_eq_true, decide_eq_true_eq] at settled
        exact settled.2
    have full : lineLimit < fold.line.length + piece.written.length :=
      Nat.lt_of_not_le (of_decide_eq_false long)
    have opens := opens.imp_right
      (Piece.continues_of_opensLine (Piece.opensLine_of_isSettled member.1))
    exact ⟨holds.1.wrapped_put isLabel ink (by omega) opens, holds.2⟩
  overrun holds _ ink := ⟨holds.1.put ink, holds.2⟩
  alone holds top := absurd top holds.2
  deeper holds _ _ := ⟨holds.1.flagged _ _, Nat.succ_ne_zero _⟩
  higher before within := ⟨within.1.flagged _ _, before.2⟩

/-! ## (4) Settled constructs are written -/

theorem exists_ownLine? {piece : Piece} (opens : piece.opensLine = true) (text : Text)
    (fold : Fold) : ∃ own, ownLine? piece text fold = .ok own := by
  obtain ⟨blank, known⟩ := Piece.exists_beginsBlank?_of_opensLine opens
  rw [ownLine?, known]
  split
  · cases blank <;> exact ⟨_, rfl⟩
  · exact ⟨_, rfl⟩

theorem exists_leaf_inside {kind : Leaf} {text : Text}
    (settled : (Piece.leaf kind text).isSettled = true) {fold : Fold} (inside : fold.sealed ≠ 0) :
    ∃ after, piece fold (.leaf kind text) = .ok after ∧ after.sealed = fold.sealed := by
  rw [piece, if_neg (by simp [inside]), leaf]
  obtain ⟨own, hown⟩ := exists_ownLine? (Piece.opensLine_of_isSettled settled)
    (Piece.leaf kind text).written
    { fold with encoding := mustEncode (.leaf kind text) (Piece.leaf kind text).written fold }
  rw [hown]
  dsimp only [bind, Except.bind, pure, Except.pure]
  split
  · exact ⟨_, rfl, rfl⟩
  · cases own with
    | some after =>
        obtain ⟨rfl, -⟩ := ownLine?_eq_some hown
        split <;> exact ⟨_, rfl, rfl⟩
    | none => split <;> exact ⟨_, rfl, rfl⟩

theorem exists_node_inside {kind : Node} {parts : List Piece}
    (writes : ∀ {fold : Fold}, fold.sealed ≠ 0 →
      ∃ after, pieces fold parts = .ok after ∧ after.sealed = fold.sealed)
    (opens : (Piece.node kind parts).opensLine = true) {fold : Fold}
    (inside : fold.sealed ≠ 0 ∨ (Piece.node kind parts).isFree = false ∧
      mustEncode (.node kind parts) (Piece.node kind parts).written fold = false) :
    ∃ after, piece fold (.node kind parts) = .ok after ∧ after.sealed = fold.sealed := by
  have quiet : ¬(mustEncode (.node kind parts) (Piece.node kind parts).written fold &&
      decide (fold.sealed = 0)) = true := by
    rw [Bool.and_eq_true, decide_eq_true_eq]
    rintro ⟨must, top⟩
    rcases inside with deep | ⟨-, free⟩
    · exact deep top
    · rw [free] at must
      cases must
  rw [piece, if_neg quiet]
  dsimp only
  generalize mustEncode (.node kind parts) (Piece.node kind parts).written fold = encoding
  -- where it is not put whole, its parts are written, behind a line of its own or not
  have parted : ∃ after, (if (Piece.node kind parts).isFree then pieces { fold with encoding } parts
      else do
        let inner ← pieces { fold with encoding, sealed := fold.sealed + 1 } parts
        return { inner with sealed := inner.sealed - 1 }) = .ok after ∧
      after.sealed = fold.sealed := by
    split
    · rename_i free
      have deep := inside.resolve_right fun fixed => by
        rw [fixed.1] at free
        cases free
      exact @writes { fold with encoding } deep
    · obtain ⟨inner, hinner, deeper⟩ :=
        @writes { fold with encoding, sealed := fold.sealed + 1 } (Nat.succ_ne_zero _)
      rw [hinner]
      refine ⟨_, rfl, ?_⟩
      change inner.sealed - 1 = fold.sealed
      rw [deeper, Nat.add_sub_cancel]
  obtain ⟨own, hown⟩ := exists_ownLine? opens (Piece.node kind parts).written { fold with encoding }
  rw [hown]
  split
  · exact ⟨_, rfl, rfl⟩
  · cases own with
    | some after =>
        obtain ⟨rfl, -⟩ := ownLine?_eq_some hown
        split
        · exact ⟨_, rfl, rfl⟩
        · exact parted
    | none => split <;> exact parted

mutual
/-- A settled piece is written where nothing is encoded. -/
theorem exists_piece_of_isSettled : (piece : Piece) → piece.isSettled = true →
    ∀ {fold : Fold}, fold.sealed ≠ 0 →
    ∃ after, Fold.piece fold piece = .ok after ∧ after.sealed = fold.sealed
  | .leaf kind text, settled, fold, inside => exists_leaf_inside settled inside
  | .node kind parts, settled, fold, inside => by
      rw [Piece.isSettled, Bool.and_eq_true] at settled
      exact exists_node_inside (exists_pieces_of_areSettled parts settled.2) settled.1
        (.inl inside)
/-- So are pieces one after another. -/
theorem exists_pieces_of_areSettled : (parts : List Piece) → Piece.areSettled parts = true →
    ∀ {fold : Fold}, fold.sealed ≠ 0 →
    ∃ after, Fold.pieces fold parts = .ok after ∧ after.sealed = fold.sealed
  | [], _, fold, _ => ⟨fold, rfl, rfl⟩
  | first :: parts, settled, fold, inside => by
      rw [Piece.areSettled, Bool.and_eq_true] at settled
      obtain ⟨between, hfirst, same⟩ := exists_piece_of_isSettled first settled.1 inside
      obtain ⟨after, hparts, again⟩ :=
        exists_pieces_of_areSettled parts settled.2 (same.symm ▸ inside)
      rw [Fold.pieces, hfirst]
      exact ⟨after, hparts, again.trans same⟩
end

end Fold

end Coursework.Mail
