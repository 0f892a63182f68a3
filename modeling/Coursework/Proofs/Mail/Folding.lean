import Coursework.Proofs.Mail.Encoding

/-! # Every plain field is folded

A field of words, full stops and white space in which no frame of an encoded word ends is written
in lines: the parts of each construct are written if they keep what is known of the field.

* **`Mail.Piece.IsSimple`** are the trees of words, full stops and white space.
* **`Mail.Fold.exists_piece`** writes one of them.
* **`Mail.exists_foldField`** writes a field of them. -/

namespace Coursework.Mail

open EncodedWord (Endless)

/-! ## (1) Trees -/

namespace Piece

mutual
/-- A tree of words, full stops and white space: no leaf is empty and no node has no parts. -/
def IsSimple : Piece → Prop
  | .leaf kind text =>
    (kind = .blank ∨ (kind = .word ∨ kind = .dot) ∧ ∀ sign ∈ text, isGap sign = false) ∧
      text ≠ [] ∧ Text.IsScalar text
  | .node kind parts => kind ≠ .comment ∧ kind ≠ .quotation ∧ parts ≠ [] ∧ AreSimple parts
/-- All of the pieces are such trees. -/
def AreSimple : List Piece → Prop
  | [] => True
  | piece :: pieces => IsSimple piece ∧ AreSimple pieces
end

theorem areSimple_iff {pieces : List Piece} :
    AreSimple pieces ↔ ∀ piece ∈ pieces, piece.IsSimple := by
  induction pieces with
  | nil => simp [AreSimple]
  | cons piece pieces ih => rw [AreSimple, ih, List.forall_mem_cons]

theorem isSimple_word {text : Text} (solid : text ≠ []) (scalar : Text.IsScalar text)
    (whole : ∀ sign ∈ text, isGap sign = false) : (leaf .word text).IsSimple := by
  rw [IsSimple]
  exact ⟨.inr ⟨.inl rfl, whole⟩, solid, scalar⟩

theorem isSimple_blank {text : Text} (solid : text ≠ []) (scalar : Text.IsScalar text) :
    (leaf .blank text).IsSimple := by
  rw [IsSimple]
  exact ⟨.inl rfl, solid, scalar⟩

theorem isSimple_node {kind : Node} {parts : List Piece}
    (kinds : kind ≠ .comment ∧ kind ≠ .quotation) (filled : parts ≠ [])
    (simple : ∀ piece ∈ parts, piece.IsSimple) : (node kind parts).IsSimple := by
  rw [IsSimple, areSimple_iff]
  exact ⟨kinds.1, kinds.2, filled, simple⟩

theorem written_leaf {kind : Leaf} {text : Text} (simple : (leaf kind text).IsSimple) :
    (leaf kind text).written = text := by
  rw [IsSimple] at simple
  rcases simple.1 with rfl | ⟨rfl | rfl, -⟩ <;> rfl

theorem written_node {kind : Node} {parts : List Piece} (simple : (node kind parts).IsSimple) :
    (node kind parts).written = writtenAll parts := by
  rw [IsSimple] at simple
  rw [written]
  · exact simple.1
  · exact simple.2.1

mutual
/-- Such a tree is written with signs that have encoded words. -/
theorem IsSimple.isScalar : {piece : Piece} → piece.IsSimple → Text.IsScalar piece.written
  | .leaf kind text, simple => by
      rw [written_leaf simple]
      rw [IsSimple] at simple
      exact simple.2.2
  | .node kind parts, simple => by
      rw [written_node simple]
      rw [IsSimple] at simple
      exact AreSimple.isScalar simple.2.2.2
theorem AreSimple.isScalar : {pieces : List Piece} → AreSimple pieces →
    Text.IsScalar (writtenAll pieces)
  | [], _ => List.forall_mem_nil _
  | piece :: pieces, simple => by
      rw [AreSimple] at simple
      rw [writtenAll_cons]
      exact Text.isScalar_append.mpr ⟨simple.1.isScalar, AreSimple.isScalar simple.2⟩
end

/-- It is known whether it begins with white space. -/
theorem IsSimple.exists_beginsBlank? : {piece : Piece} → piece.IsSimple →
    ∃ blank, piece.beginsBlank? = some blank
  | .leaf kind text, _ => ⟨_, rfl⟩
  | .node kind [], simple => by
      rw [IsSimple] at simple
      exact absurd rfl simple.2.2.1
  | .node kind (first :: parts), simple => by
      rw [IsSimple, AreSimple] at simple
      rw [beginsBlank?, firstBeginsBlank?]
      exact simple.2.2.2.1.exists_beginsBlank?

end Piece

namespace Fold

open Piece

/-! ## (2) Leaves and constructs -/

/-- A simple piece has to be encoded exactly if it is not ink. -/
theorem mustEncode_of_isSimple {piece : Piece} (simple : piece.IsSimple) {fold : Fold}
    (encoding : fold.encoding = false) (text : Text) :
    mustEncode piece text fold = !text.all isInk := by
  cases piece with
  | node kind parts =>
      rw [mustEncode, encoding, Bool.false_or, not_all_isInk, Bool.or_false] <;> simp
  | leaf kind _ =>
      rw [IsSimple] at simple
      rcases simple.1 with rfl | ⟨rfl | rfl, -⟩ <;>
        · rw [mustEncode, encoding, Bool.false_or, not_all_isInk, Bool.or_false] <;> simp

/-- A piece is put on a new line, or it is seen that it cannot be. -/
theorem ownLine?_cases {piece : Piece} (simple : piece.IsSimple) (text : Text) (fold : Fold) :
    ownLine? piece text fold = .ok (some (fold.wrapped.put text)) ∨
      ownLine? piece text fold = .ok none ∧ piece.beginsBlank? = some false := by
  obtain ⟨blank, begins⟩ := simple.exists_beginsBlank?
  rw [ownLine?, begins]
  split
  · cases blank
    · exact .inr ⟨rfl, rfl⟩
    · exact .inl rfl
  · exact .inl rfl

section Leaf

variable {fold : Fold} {kind : Leaf} {text rest : Text} (tidy : Tidy fold (text ++ rest))
  (simple : (Piece.leaf kind text).IsSimple)

include tidy simple

/-- A leaf that fits on no line is encoded if that is allowed. -/
theorem Tidy.exists_leaf_unbroken (solid : IsSolid text) :
    ∃ after, (if fold.sealed = 0 then encode (.ofText text) text fold
      else do
        match ← ownLine? (.leaf kind text) text fold with
        | some fold => return fold
        | none => return fold.put text) = .ok after ∧ Tidy after rest ∧
      after.sealed = fold.sealed := by
  have scalar := simple.isScalar
  rw [written_leaf simple] at scalar
  split
  · exact tidy.exists_encode scalar solid
  · rcases ownLine?_cases simple text fold with own | ⟨own, -⟩
    · rw [own]
      exact ⟨_, rfl, tidy.wrapped_put scalar, rfl⟩
    · rw [own]
      exact ⟨_, rfl, tidy.put scalar, rfl⟩

/-- A leaf that need not be encoded is written. -/
theorem Tidy.exists_leaf : ∃ after, leaf kind text fold = .ok after ∧ Tidy after rest ∧
    after.sealed = fold.sealed := by
  have scalar := simple.isScalar
  rw [written_leaf simple] at scalar
  rw [leaf, written_leaf simple]
  dsimp only
  split
  · exact ⟨_, rfl, tidy.put scalar, rfl⟩
  · split
    · rcases ownLine?_cases simple text fold with own | ⟨own, begins⟩
      · rw [own]
        exact ⟨_, rfl, tidy_of_word tidy.encoding tidy.endless_rest rfl, rfl⟩
      · have solid : IsSolid text := by
          rw [IsSimple] at simple
          obtain ⟨kinds, solid, -⟩ := simple
          rcases kinds with rfl | ⟨-, word⟩
          · cases begins
          · obtain ⟨sign, others, rfl⟩ := List.exists_cons_of_ne_nil solid
            exact isSolid_of_not_isGap List.mem_cons_self (word sign List.mem_cons_self)
        have unbroken := tidy.exists_leaf_unbroken simple solid
        rw [own] at unbroken ⊢
        exact unbroken
    · rename_i long
      refine tidy.exists_leaf_unbroken simple ⟨?_, ?_⟩
      · rintro rfl
        exact long (by decide)
      · rintro sign rfl
        have short : 1 + 1 ≤ lineLimit := by decide
        exact absurd short long

end Leaf

section Node

variable {kind : Node} {parts : List Piece} (simple : (Piece.node kind parts).IsSimple)
  (writes : ∀ {fold : Fold} {rest : Text}, Tidy fold (writtenAll parts ++ rest) →
    (fold.sealed ≠ 0 → IsInk (writtenAll parts)) →
    ∃ after, pieces fold parts = .ok after ∧ Tidy after rest ∧ after.sealed = fold.sealed)
  {fold : Fold} {rest : Text} (tidy : Tidy fold (writtenAll parts ++ rest))

include simple writes tidy

/-- A construct in ink whose parts can be written is written. -/
theorem Tidy.exists_node_ink (ink : IsInk (writtenAll parts)) :
    ∃ after, piece fold (.node kind parts) = .ok after ∧ Tidy after rest ∧
      after.sealed = fold.sealed := by
  have scalar := simple.isScalar
  have same : { fold with encoding := false } = fold := by
    rw [← tidy.encoding]
  rw [written_node simple] at scalar
  rw [piece, mustEncode_of_isSimple simple tidy.encoding, written_node simple,
    all_isInk_iff.mpr ink]
  simp only [Bool.not_true, Bool.false_and, Bool.false_eq_true, if_false, same]
  have parted : ∃ after, (if (Piece.node kind parts).isFree then pieces fold parts
      else do
        let inner ← pieces { fold with encoding := false, sealed := fold.sealed + 1 } parts
        return { inner with sealed := inner.sealed - 1 }) = .ok after ∧ Tidy after rest ∧
      after.sealed = fold.sealed := by
    split
    · exact writes tidy fun _ => ink
    · obtain ⟨inner, h, hinner, deeper⟩ :=
        @writes { fold with encoding := false, sealed := fold.sealed + 1 } rest
          ⟨rfl, tidy.endless, tidy.behind⟩ fun _ => ink
      rw [h]
      refine ⟨_, rfl, ⟨hinner.encoding, hinner.endless, hinner.behind⟩, ?_⟩
      change inner.sealed - 1 = fold.sealed
      rw [deeper, Nat.add_sub_cancel]
  split
  · exact ⟨_, rfl, tidy.put scalar, rfl⟩
  · split
    · rcases ownLine?_cases simple (writtenAll parts) fold with own | ⟨own, -⟩
      · rw [own]
        exact ⟨_, rfl, tidy_of_word tidy.encoding tidy.endless_rest rfl, rfl⟩
      · rw [own]
        exact parted
    · exact parted

/-- So is another one, where something may be encoded. -/
theorem Tidy.exists_node_encoded (mixed : (writtenAll parts).all isInk = false)
    (free : fold.sealed = 0) :
    ∃ after, piece fold (.node kind parts) = .ok after ∧ Tidy after rest ∧
      after.sealed = fold.sealed := by
  have unsealed : ∀ {fold : Fold}, fold.sealed = 0 → fold.sealed ≠ 0 →
      IsInk (writtenAll parts) := fun zero other => absurd zero other
  rw [piece, mustEncode_of_isSimple simple tidy.encoding, written_node simple, mixed]
  simp only [free, Bool.not_false, decide_true, Bool.and_self, if_true]
  split
  · obtain ⟨after, h, hafter, same⟩ := @writes { fold with encoding := false } rest
      ⟨rfl, tidy.endless, tidy.behind⟩ (unsealed free)
    rw [free] at h same
    exact ⟨after, h, hafter, same⟩
  · -- on a line of its own, and part by part if it has several
    obtain ⟨inner, h, -, -⟩ := @writes {} rest (tidy_of_word rfl tidy.endless rfl) (unsealed rfl)
    obtain ⟨after, hafter, tidied, same⟩ := @writes { fold with encoding := false, word := none }
      rest (tidy_of_word rfl tidy.endless rfl) (unsealed free)
    rw [free] at hafter same
    rw [h]
    dsimp only [bind, Except.bind]
    split
    · split
      · exact ⟨after, hafter, tidied, same⟩
      · refine ⟨_, rfl, tidy_of_word ?_ tidy.endless_rest ?_, ?_⟩
        · split <;> rfl
        · split <;> rfl
        · split <;> rfl
    · exact ⟨after, hafter, tidied, same⟩

end Node

/-! ## (3) Fields -/

/-- What is more than ink is not written where ink alone may be. -/
theorem sealed_eq_zero {fold : Fold} {text : Text} (inside : fold.sealed ≠ 0 → IsInk text)
    (ink : text.all isInk = false) : fold.sealed = 0 := by
  by_contra deep
  rw [all_isInk_iff.mpr (inside deep)] at ink
  cases ink

mutual
/-- Every simple piece is written, if nothing is to be encoded where that is not allowed. -/
theorem exists_piece : (piece : Piece) → ∀ {fold : Fold} {rest : Text}, piece.IsSimple →
    Tidy fold (piece.written ++ rest) →
    (fold.sealed ≠ 0 → IsInk piece.written) →
    ∃ after, Fold.piece fold piece = .ok after ∧ Tidy after rest ∧ after.sealed = fold.sealed
  | .leaf kind text, fold, rest, simple, tidy, inside => by
      have scalar := simple.isScalar
      have same : { fold with encoding := false } = fold := by
        rw [← tidy.encoding]
      rw [written_leaf simple] at tidy inside scalar
      rw [piece, mustEncode_of_isSimple simple tidy.encoding, written_leaf simple]
      cases ink : text.all isInk with
      | true =>
          simp only [Bool.not_true, Bool.false_and, Bool.false_eq_true, if_false, same]
          exact tidy.exists_leaf simple
      | false =>
          have free := sealed_eq_zero inside ink
          obtain ⟨sign, member, beyond⟩ := List.all_eq_false.mp ink
          have solid : IsSolid text := by
            refine isSolid_of_not_isGap member (Bool.eq_false_iff.mpr fun gap => ?_)
            exact beyond (isInk_of_isGap gap)
          simp only [free, Bool.not_false, decide_true, Bool.and_self, if_true]
          rw [← free]
          exact tidy.exists_encode scalar solid
  | .node kind parts, fold, rest, simple, tidy, inside => by
      rw [written_node simple] at tidy inside
      have inner : AreSimple parts := by
        rw [IsSimple] at simple
        exact simple.2.2.2
      cases ink : (writtenAll parts).all isInk with
      | true =>
          exact tidy.exists_node_ink simple (exists_pieces parts inner) (all_isInk_iff.mp ink)
      | false =>
          have free := sealed_eq_zero inside ink
          exact tidy.exists_node_encoded simple (exists_pieces parts inner) ink free
/-- So are pieces one after another. -/
theorem exists_pieces : (parts : List Piece) → AreSimple parts → ∀ {fold : Fold} {rest : Text},
    Tidy fold (writtenAll parts ++ rest) →
    (fold.sealed ≠ 0 → IsInk (writtenAll parts)) →
    ∃ after, Fold.pieces fold parts = .ok after ∧ Tidy after rest ∧ after.sealed = fold.sealed
  | [], _, fold, rest, tidy, _ => ⟨fold, rfl, tidy, rfl⟩
  | first :: parts, simple, fold, rest, tidy, inside => by
      rw [AreSimple] at simple
      rw [writtenAll_cons, List.append_assoc] at tidy
      rw [writtenAll_cons, isInk_append] at inside
      obtain ⟨between, hfirst, hbetween, same⟩ :=
        exists_piece first simple.1 tidy fun deep => (inside deep).1
      obtain ⟨after, hparts, hafter, again⟩ :=
        exists_pieces parts simple.2 hbetween fun deep => (inside (same ▸ deep)).2
      rw [pieces, hfirst]
      exact ⟨after, hparts, hafter, again.trans same⟩
end

end Fold

/-- A field is folded if it has simple pieces and no frame ends in it. -/
theorem exists_foldField {name : Text} {content : List Piece}
    (named : name ≠ [] ∧ ∀ sign ∈ name, sign < 0x80 ∧ isGap sign = false ∧ sign ≠ Sign.question)
    (simple : ∀ piece ∈ content, piece.IsSimple) (filled : content ≠ [])
    (endless : Endless (Piece.writtenAll content)) :
    ∃ lines, foldField name content = .ok lines := by
  have ascii : Text.IsScalar name := Text.isScalar_of_forall_lt fun sign member =>
    (named.2 sign member).1
  have colon : (Piece.sign Sign.colon).IsSimple := Piece.isSimple_word (by simp)
    (Text.isScalar_of_forall_lt (by decide)) (by decide)
  have label : (Piece.node .label [.leaf .word name, .sign Sign.colon]).IsSimple := by
    refine Piece.isSimple_node (by decide) (List.cons_ne_nil _ _) ?_
    simp only [List.forall_mem_cons]
    exact ⟨Piece.isSimple_word named.1 ascii fun sign member => (named.2 sign member).2.1, colon,
      List.forall_mem_nil _⟩
  have gap : (Piece.node .blank [.leaf .blank [Sign.space]]).IsSimple := by
    refine Piece.isSimple_node (by decide) (List.cons_ne_nil _ _) ?_
    rw [List.forall_mem_singleton]
    exact Piece.isSimple_blank (List.cons_ne_nil _ _) (Text.isScalar_of_forall_lt (by decide))
  have inner : (Piece.node .plain content).IsSimple :=
    Piece.isSimple_node (by decide) filled simple
  have pieces : Piece.AreSimple [.node .label [.leaf .word name, .sign Sign.colon],
      .node .blank [.leaf .blank [Sign.space]], .node .plain content] := by
    rw [Piece.areSimple_iff]
    simp only [List.forall_mem_cons]
    exact ⟨label, gap, inner, List.forall_mem_nil _⟩
  have whole : Endless (Piece.writtenAll [.node .label [.leaf .word name, .sign Sign.colon],
      .node .blank [.leaf .blank [Sign.space]], .node .plain content] ++ []) := by
    have start : Sign.question ∉ name ++ [Sign.colon, Sign.space] := by
      rw [List.mem_append, not_or]
      exact ⟨fun member => (named.2 _ member).2.2 rfl, by decide⟩
    have behind := endless_append start endless
    simpa [Piece.writtenAll, Piece.written, Piece.sign] using behind
  have tidy : Fold.Tidy {} _ := Fold.tidy_of_word rfl whole rfl
  obtain ⟨after, h, -⟩ := Fold.exists_pieces _ pieces tidy fun deep => absurd rfl deep
  rw [foldField, if_neg (by simpa using filled)]
  simp only [List.cons_append, List.nil_append]
  rw [h]
  exact ⟨_, rfl⟩

end Coursework.Mail
