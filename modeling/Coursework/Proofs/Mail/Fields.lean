import Coursework.Proofs.Mail.Unfolding

/-! # A field stays in its lines

A field is its name, a colon, a space and its content. Free text may hold any encoded words;
addresses are short, or all their constructs may stand at the beginning of a line, or they make one
line when what has to be is encoded. Then the lines of the field are its own.

* **`Mail.IsWhole`** are the lines of such a field.
* **`Mail.isWhole_foldField_freeText`** is the statement for free text, and
  **`Mail.exists_isWhole_foldField`** that for addresses, the contents of which are
  **`Mail.IsContained`**. -/

namespace Coursework.Mail

open Fold (stolen)
open Text (IsCoded)

namespace Fold

/-! ## (1) Constructs in a field -/

theorem mustEncode_node {fold : Fold} (quiet : fold.encoding = false) (kind : Node)
    (parts : List Piece) (text : Text) :
    mustEncode (.node kind parts) text fold = !text.all isInk := by
  rw [mustEncode, quiet, Bool.false_or, not_all_isInk, Bool.or_false] <;> simp

/-- A construct that fits is put behind the line. -/
theorem piece_of_fits {fold : Fold} {kind : Node} {parts : List Piece}
    (quiet : fold.encoding = false) (ink : IsInk (Piece.node kind parts).written)
    (room : fold.fits (Piece.node kind parts).written = true) :
    piece fold (.node kind parts) = .ok (fold.put (Piece.node kind parts).written) := by
  have same : { fold with encoding := false } = fold := by
    rw [← quiet]
  rw [piece, mustEncode_node quiet, all_isInk_iff.mpr ink]
  simp only [Bool.not_true, Bool.false_and, Bool.false_eq_true, if_false, same]
  rw [if_pos room]

/-- A short one that does not fit is put on a line of its own behind white space. -/
theorem piece_of_short {fold : Fold} {kind : Node} {parts : List Piece}
    (quiet : fold.encoding = false) (ink : IsInk (Piece.node kind parts).written)
    (long : ¬fold.fits (Piece.node kind parts).written = true)
    (short : (Piece.node kind parts).written.length + 1 ≤ lineLimit)
    (gap : stolen fold.line ≠ []) :
    piece fold (.node kind parts) =
      .ok { fold.wrapped.put (Piece.node kind parts).written with word := none } := by
  have same : { fold with encoding := false } = fold := by
    rw [← quiet]
  have own : ownLine? (.node kind parts) (Piece.node kind parts).written fold =
      .ok (some (fold.wrapped.put (Piece.node kind parts).written)) := by
    rw [ownLine?, if_neg (by simpa using gap)]
  rw [piece, mustEncode_node quiet, all_isInk_iff.mpr ink]
  simp only [Bool.not_true, Bool.false_and, Bool.false_eq_true, if_false, same]
  rw [if_neg long, if_pos short, own]
  rfl

/-- One whose parts make one line is put. -/
theorem exists_piece_alone {fold inner : Fold} {kind : Node} {parts : List Piece}
    (quiet : fold.encoding = false) (top : fold.sealed = 0)
    (mixed : (Piece.node kind parts).written.all isInk = false)
    (fixed : (Piece.node kind parts).isFree = false) (done : pieces {} parts = .ok inner)
    (single : inner.lines = [inner.line]) (ink : IsInk inner.line) :
    ∃ after, piece fold (.node kind parts) = .ok after := by
  have oneLine : ¬inner.line.any (· == Sign.newline) = true := by
    rw [List.any_eq_true]
    rintro ⟨sign, member, ends⟩
    rw [beq_iff_eq] at ends
    subst ends
    exact absurd (ink _ member) (by decide)
  rw [piece, mustEncode_node quiet, mixed, top]
  simp only [Bool.not_false, decide_true, Bool.and_self, if_true]
  rw [if_neg (by simp [fixed]), done]
  dsimp only [bind, Except.bind]
  rw [single]
  exact ⟨_, if_neg oneLine⟩

end Fold

/-! ## (2) The name of a field -/

/-- The name of a field: letters, with room for something behind them. -/
def IsFieldName (name : Text) : Prop :=
  name.length < 64 ∧ ∀ sign ∈ name, Sign.isLetter sign = true

/-- A field behind its name, a colon and a space. -/
def Fold.opened (name : Text) : Fold := { line := name ++ [Sign.colon, Sign.space] }

/-- The lines of a field that stays in them. -/
structure IsWhole (name : Text) (lines : List Text) : Prop where
  /-- They are the lines of one field. -/
  unfolds : Unfolds (name ++ [Sign.colon]) lines.reverse
  /-- They are ink. -/
  ink : ∀ line ∈ lines, IsInk line

section Field

variable {name : Text} (named : IsFieldName name)

include named

/-- The signs of a name lie between the first capital and the last small letter. -/
theorem IsFieldName.bounds {sign : Nat} (member : sign ∈ name) : 65 ≤ sign ∧ sign ≤ 122 := by
  have letter := named.2 sign member
  simp only [Sign.isLetter, Sign.isUpper, Sign.isLower, Bool.or_eq_true, Bool.and_eq_true,
    decide_eq_true_eq] at letter
  omega

theorem IsFieldName.isInk : IsInk name := fun sign member => by
  have := named.bounds member
  have other : Fold.isLineEnd sign = false := by
    simp only [Fold.isLineEnd, Sign.newline, Sign.carriageReturn, Bool.or_eq_false_iff,
      beq_eq_false_iff_ne]
    omega
  rw [Mail.isInk, other, Bool.not_false, Bool.and_true, decide_eq_true_eq]
  omega

theorem IsFieldName.isInk_label : IsInk (name ++ [Sign.colon]) :=
  isInk_append.mpr ⟨named.isInk, List.forall_mem_singleton.mpr (by decide)⟩

omit named in
theorem isLabel_append_colon : IsLabel (name ++ [Sign.colon]) := by
  refine ⟨List.append_ne_nil_of_right_ne_nil _ (List.cons_ne_nil _ _), ?_⟩
  rw [stolen, List.getLast?_concat]
  rfl

theorem begun_opened : Fold.Begun (name ++ [Sign.colon]) (Fold.opened name) where
  inked := Fold.inked_iff.mpr ⟨isInk_append.mpr ⟨named.isInk, by decide⟩,
    List.forall_mem_nil _⟩
  unfolds := .first ⟨[Sign.space], by simp [Fold.opened]⟩
  place start word := by cases word

theorem piece_label : Fold.piece {} (.node .label [.leaf .word name, .sign Sign.colon]) =
    .ok { line := name ++ [Sign.colon] } := by
  have written : (Piece.node .label [.leaf .word name, .sign Sign.colon]).written =
      name ++ [Sign.colon] := by
    simp [Piece.written, Piece.writtenAll, Piece.sign]
  have room := named.1
  rw [Fold.piece_of_fits rfl]
  · rw [written]
    rfl
  · rw [written]
    exact named.isInk_label
  · rw [written, Fold.fits, decide_eq_true_eq, List.length_append]
    simp only [List.length_nil, List.length_singleton, lineLimit]
    omega

omit named in
theorem stolen_opened : stolen (Fold.opened name).line = [Sign.space] := by
  have last : (name ++ [Sign.colon, Sign.space]).getLast? = some Sign.space := by simp
  rw [Fold.opened, stolen, last]
  rfl

/-- Behind its name, a field is its content. -/
theorem foldField_eq_map {content : List Piece} (filled : content ≠ []) :
    foldField name content =
      (Fold.piece (Fold.opened name) (.node .plain content)).map Fold.lines := by
  have gap : Fold.piece { line := name ++ [Sign.colon] }
      (.node .blank [.leaf .blank [Sign.space]]) = .ok (Fold.opened name) := by
    have room := named.1
    rw [Fold.piece_of_fits rfl (by decide)]
    · rw [Fold.opened, Fold.put, List.append_assoc]
      rfl
    · change decide (_ + 1 ≤ lineLimit) = true
      rw [decide_eq_true_eq, List.length_append]
      simp only [List.length_singleton, lineLimit]
      omega
  rw [foldField, if_neg (by simpa using filled)]
  simp only [List.cons_append, List.nil_append, Fold.pieces, piece_label named, gap, bind,
    Except.bind]
  cases Fold.piece (Fold.opened name) (.node .plain content) <;> rfl

theorem foldField_nil : foldField name [] = .ok [name ++ [Sign.colon]] := by
  have room := named.1
  have nothing : Fold.piece { line := name ++ [Sign.colon] } (.node .plain []) =
      .ok { line := name ++ [Sign.colon] } := by
    rw [Fold.piece_of_fits rfl (by decide)]
    · change Except.ok (Fold.put [] _) = _
      rw [Fold.put, List.append_nil]
    · change decide (_ + 0 ≤ lineLimit) = true
      rw [decide_eq_true_eq, List.length_append]
      simp only [List.length_singleton, lineLimit]
      omega
  rw [foldField, if_pos (by rfl)]
  simp only [List.cons_append, List.nil_append, Fold.pieces, piece_label named, nothing, bind,
    Except.bind]
  rfl

theorem isWhole_label : IsWhole name [name ++ [Sign.colon]] :=
  ⟨.first (List.prefix_refl _), List.forall_mem_singleton.mpr named.isInk_label⟩

omit named in
theorem Fold.Begun.isWhole {fold : Fold} (begun : Fold.Begun (name ++ [Sign.colon]) fold) :
    IsWhole name fold.lines where
  unfolds := by
    rw [Fold.lines, List.reverse_reverse]
    exact begun.unfolds
  ink line member := begun.inked line (List.mem_reverse.mp member)

/-- A text behind the name stays in the field. -/
theorem begun_opened_put {text : Text} (ink : IsInk text) :
    Fold.Begun (name ++ [Sign.colon]) ((Fold.opened name).put text) :=
  (begun_opened named).put ink

/-- So does a text on a line of its own. -/
theorem begun_opened_wrapped_put {text : Text} (ink : IsInk text) :
    Fold.Begun (name ++ [Sign.colon]) ((Fold.opened name).wrapped.put text) := by
  refine (begun_opened named).wrapped_put isLabel_append_colon ink ?_ (.inl ?_)
  · simp [Fold.opened]
  · rw [stolen_opened]
    exact List.cons_ne_nil _ _

/-! ## (3) Free text -/

/-- Free text stays in the lines of its field. -/
theorem isWhole_foldField_freeText {content : List Piece} {lines : List Text}
    (tokens : ∀ piece ∈ content, piece.IsFreeToken)
    (coded : IsCoded (Piece.writtenAll content))
    (folded : foldField name content = .ok lines) : IsWhole name lines := by
  by_cases filled : content = []
  · rw [filled, foldField_nil named] at folded
    cases folded
    exact isWhole_label named
  · rw [foldField_eq_map named filled] at folded
    obtain ⟨after, done, rfl⟩ := Outcome.map_eq_ok_iff.mp folded
    suffices Fold.Begun (name ++ [Sign.colon]) after from this.isWhole
    have free : (Piece.node .plain content).isFree = true := by
      change Piece.allFree content = true
      rw [Piece.allFree_iff]
      exact fun piece member => (tokens piece member).isFree
    have keeps := Fold.keepsPieces_freeText (@isLabel_append_colon name)
    have begun := begun_opened named
    have slack : Fold.Slack (Fold.opened name) := Fold.slack_of_length (by
      have := named.1
      simp only [Fold.opened, List.length_append, List.length_cons, List.length_nil, lineLimit]
      omega)
    replace done := Fold.constructed_of_piece (absurd rfl) done
    cases done with
    | whole encoding ink => exact (begun_opened_put named ink).flagged encoding _
    | own encoding ink => exact (begun_opened_wrapped_put named ink).forget.flagged encoding _
    | free encoding _ done =>
        have kept := keeps.pieces content
          (fun piece member => ⟨tokens piece member, coded.of_subset fun sign own =>
            Piece.mem_writtenAll.mpr ⟨piece, member, own⟩⟩)
          (keeps.flag encoding ⟨⟨begun, slack⟩, rfl⟩) (absurd rfl) done
        exact kept.1.1.1
    | inside _ fixed | alone fixed | apart fixed =>
        rw [free] at fixed
        cases fixed

/-! ## (4) Addresses -/

/-- What makes the constructs of addresses stay in the lines of their field. -/
inductive IsContained (content : List Piece) : Prop
  /-- They have room on one line. -/
  | short (ink : IsInk (Piece.writtenAll content))
    (room : (Piece.writtenAll content).length + 1 ≤ lineLimit)
  /-- Nothing in them may be encoded nor has to be, and each may have a line of its own. -/
  | settled (ink : IsInk (Piece.writtenAll content))
    (fixed : (Piece.node .plain content).isFree = false)
    (settled : (Piece.node .plain content).isSettled = true)
  /-- They have to be encoded and make one line. -/
  | alone {inner : Fold} (coded : IsCoded (Piece.writtenAll content))
    (mixed : ¬IsInk (Piece.writtenAll content))
    (fixed : (Piece.node .plain content).isFree = false)
    (done : Fold.pieces {} content = .ok inner) (single : inner.lines = [inner.line])

section Contained

variable {content : List Piece} (fixed : (Piece.node .plain content).isFree = false)

include fixed

theorem exists_begun_settled (ink : IsInk (Piece.writtenAll content))
    (settled : (Piece.node .plain content).isSettled = true) :
    ∃ after, Fold.piece (Fold.opened name) (.node .plain content) = .ok after ∧
      Fold.Begun (name ++ [Sign.colon]) after := by
  have free : Fold.mustEncode (.node .plain content) (Piece.node .plain content).written
      (Fold.opened name) = false := by
    rw [Fold.mustEncode_node rfl]
    exact congrArg Bool.not (all_isInk_iff.mpr ink)
  have parts := settled
  rw [Piece.isSettled, Bool.and_eq_true] at parts
  obtain ⟨after, done, -⟩ := Fold.exists_node_inside
    (Fold.exists_pieces_of_areSettled content parts.2) parts.1 (.inr ⟨fixed, free⟩)
  refine ⟨after, done, ?_⟩
  have keeps := Fold.keepsPieces_settled (@isLabel_append_colon name)
  replace done := Fold.constructed_of_piece (absurd rfl) done
  cases done with
  | whole encoding => exact (begun_opened_put named ink).flagged encoding _
  | own encoding => exact (begun_opened_wrapped_put named ink).forget.flagged encoding _
  | free encoding free =>
      rw [fixed] at free
      cases free
  | inside encoding _ _ done =>
      have begun := (begun_opened named).flagged encoding 1
      have kept := keeps.pieces content (@keeps.parts .plain content ⟨settled, ink.isCoded⟩)
        ⟨begun, Nat.one_ne_zero⟩ (fun _ => ink) done
      exact kept.1.1.flagged _ _
  | alone _ _ must | apart _ _ must =>
      rw [free] at must
      cases must

theorem exists_begun_alone {inner : Fold} (coded : IsCoded (Piece.writtenAll content))
    (mixed : ¬IsInk (Piece.writtenAll content))
    (done : Fold.pieces {} content = .ok inner) (single : inner.lines = [inner.line]) :
    ∃ after, Fold.piece (Fold.opened name) (.node .plain content) = .ok after ∧
      Fold.Begun (name ++ [Sign.colon]) after := by
  have keeps := Fold.keepsPieces_inked
  have ink : IsInk inner.line := by
    have inked := (keeps.pieces content (@keeps.parts .plain content coded)
      Fold.inked_empty (absurd rfl) done).1
    exact (Fold.inked_iff.mp inked).1
  obtain ⟨after, written⟩ :=
    @Fold.exists_piece_alone (Fold.opened name) _ .plain _ rfl rfl
      (Bool.eq_false_iff.mpr fun all => mixed (all_isInk_iff.mp all)) fixed done single ink
  refine ⟨after, written, ?_⟩
  replace written := Fold.constructed_of_piece (absurd rfl) written
  cases written with
  | whole _ plain | own _ plain | inside _ _ plain => exact absurd plain mixed
  | free _ free =>
      rw [fixed] at free
      cases free
  | alone _ _ _ again =>
      obtain rfl := Except.ok.inj (done.symm.trans again)
      split
      · exact (begun_opened_put named ink).forget
      · exact (begun_opened_wrapped_put named ink).forget
  | apart _ _ _ again several =>
      obtain rfl := Except.ok.inj (done.symm.trans again)
      exact absurd ink (several single)

end Contained

/-- Addresses that are contained are written in the lines of their field. -/
theorem exists_isWhole_foldField {content : List Piece} (contained : IsContained content) :
    ∃ lines, foldField name content = .ok lines ∧ IsWhole name lines := by
  by_cases filled : content = []
  · exact ⟨_, filled ▸ foldField_nil named, isWhole_label named⟩
  · suffices ∃ after, Fold.piece (Fold.opened name) (.node .plain content) = .ok after ∧
        Fold.Begun (name ++ [Sign.colon]) after by
      obtain ⟨after, done, begun⟩ := this
      rw [foldField_eq_map named filled, done]
      exact ⟨_, rfl, begun.isWhole⟩
    cases contained with
    | short ink room =>
        by_cases fits : (Fold.opened name).fits (Piece.writtenAll content) = true
        · exact ⟨_, Fold.piece_of_fits rfl ink fits, begun_opened_put named ink⟩
        · refine ⟨_, Fold.piece_of_short rfl ink fits room ?_,
            (begun_opened_wrapped_put named ink).forget⟩
          rw [stolen_opened]
          exact List.cons_ne_nil _ _
    | settled ink fixed settled => exact exists_begun_settled named fixed ink settled
    | alone coded mixed fixed done single =>
        exact exists_begun_alone named fixed coded mixed done single

end Field

end Coursework.Mail
