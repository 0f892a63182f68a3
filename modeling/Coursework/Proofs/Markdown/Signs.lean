import Coursework.Proofs.Markdown.Suffix
import Coursework.Proofs.Text.Trimming

/-! # Signs of visible texts

The visible text of a source has no signs but those of the source, line feeds and spaces.

* **`Piece.All`** holds of a piece whose signs have a property.
* **`Piece.all_flatten`** and **`Inline.all_scan`** say that it is kept, and
  **`Inline.forall_mem_visible`** what follows. -/

namespace Coursework.Markdown

variable {P : Nat → Prop}

namespace Piece

/-! ## (1) Pieces -/

/-- The signs of a piece have a property. -/
def All (P : Nat → Prop) : Piece → Prop
  | text content _ => ∀ sign ∈ content, P sign
  | run value => P value.mark
  | bracket image active behind => ∀ sign ∈ (bracket image active behind).content, P sign

theorem All.content {piece : Piece} (all : piece.All P) : ∀ sign ∈ piece.content, P sign := by
  cases piece with
  | text content levels => exact all
  | run value =>
      intro sign h
      rw [List.eq_of_mem_replicate h]
      exact all
  | bracket image active behind => exact all

theorem All.plain {piece : Piece} (all : piece.All P) : piece.plain.All P := all.content

theorem all_join {pieces : List Piece} (all : ∀ piece ∈ pieces, piece.All P) :
    (join pieces).All P := by
  intro sign h
  obtain ⟨piece, hpiece, hsign⟩ := List.mem_flatMap.mp h
  exact (all piece hpiece).content sign hsign

theorem all_wrap? {piece wrapped : Piece} (all : piece.All P) (h : piece.wrap? = some wrapped) :
    wrapped.All P := by
  rw [wrap?] at h
  split at h
  · rw [← Option.some.inj h]
    exact all.content
  · cases h

/-- The pieces around an opener are pieces of the line, and so is the opener. -/
theorem opener?_eq_some {closer opener : Run} {pieces inner outer : List Piece}
    (h : opener? closer pieces = some (inner, opener, outer)) :
    pieces = inner ++ run opener :: outer := by
  induction pieces generalizing inner with
  | nil => cases h
  | cons piece pieces ih =>
      rw [opener?] at h
      split at h
      · rename_i found hfound
        rw [Option.some.injEq, Prod.mk.injEq, Prod.mk.injEq] at h
        obtain ⟨rfl, rfl, rfl⟩ := h
        cases piece with
        | run value =>
            rw [openedBy?] at hfound
            split at hfound
            · rw [Option.some.inj hfound]
              rfl
            · cases hfound
        | text content levels => cases hfound
        | bracket image active behind => cases hfound
      · rw [Option.map_eq_some_iff] at h
        obtain ⟨⟨between, found, rest⟩, hfound, hparts⟩ := h
        rw [Prod.mk.injEq, Prod.mk.injEq] at hparts
        obtain ⟨rfl, rfl, rfl⟩ := hparts
        rw [ih hfound, List.cons_append]

theorem all_close {closer : Run} (mark : P closer.mark) (steps : Nat) {pieces : List Piece}
    (all : ∀ piece ∈ pieces, piece.All P) : ∀ piece ∈ close closer steps pieces, piece.All P := by
  induction steps generalizing closer pieces with
  | zero => exact all
  | succ steps ih =>
      -- without an opener the run stays, for later runs or as a text
      have unmatched : ∀ piece ∈ (if closer.opens = true then run closer :: pieces
          else (run closer).plain :: pieces), piece.All P := by
        split
        · exact List.forall_mem_cons.mpr ⟨mark, all⟩
        · have whole : (run closer).All P := mark
          exact List.forall_mem_cons.mpr ⟨whole.plain, all⟩
      rw [close]
      split
      · exact unmatched
      · rename_i inner opener outer hopener
        rw [opener?_eq_some hopener] at all
        obtain ⟨hinner, hrest⟩ := List.forall_mem_append.mp all
        obtain ⟨hopened, houter⟩ := List.forall_mem_cons.mp hrest
        split
        · exact unmatched
        · rename_i wrapped hwrapped
          have hinside := all_wrap? (all_join fun piece h => hinner piece (List.mem_reverse.mp h))
            hwrapped
          -- an opener keeps the marks that are left of it
          have hpieces : ∀ left, ∀ piece ∈ (wrapped :: if left = 0 then outer else
              run { opener with remaining := left } :: outer), piece.All P := by
            intro left
            refine List.forall_mem_cons.mpr ⟨hinside, ?_⟩
            split
            · exact houter
            · exact List.forall_mem_cons.mpr ⟨hopened, houter⟩
          simp only
          generalize (if 2 ≤ opener.remaining && 2 ≤ closer.remaining then 2 else 1) = used
          split
          · exact hpieces _
          · refine ih ?_ (hpieces _)
            exact mark

theorem all_resolveFrom {before pieces : List Piece} (hbefore : ∀ piece ∈ before, piece.All P)
    (all : ∀ piece ∈ pieces, piece.All P) : ∀ piece ∈ resolveFrom before pieces, piece.All P := by
  induction pieces generalizing before with
  | nil => exact hbefore
  | cons piece pieces ih =>
      obtain ⟨hpiece, hpieces⟩ := List.forall_mem_cons.mp all
      cases piece with
      | run value =>
          rw [resolveFrom]
          refine ih ?_ hpieces
          split
          · exact all_close hpiece _ hbefore
          · exact List.forall_mem_cons.mpr ⟨hpiece, hbefore⟩
      | text content levels => exact ih (List.forall_mem_cons.mpr ⟨hpiece, hbefore⟩) hpieces
      | bracket image active behind =>
          exact ih (List.forall_mem_cons.mpr ⟨hpiece, hbefore⟩) hpieces

/-- Matching runs brings no sign in. -/
theorem all_flatten {pieces : List Piece} (all : ∀ piece ∈ pieces, piece.All P) :
    (flatten pieces).All P := by
  refine all_join fun piece h => ?_
  exact all_resolveFrom (fun _ h => absurd h List.not_mem_nil) all piece (List.mem_reverse.mp h)

end Piece

namespace Inline

/-! ## (2) Steps -/

/-- The signs of the pieces read so far have a property. -/
def State.All (P : Nat → Prop) (state : State) : Prop := ∀ piece ∈ state.pieces, piece.All P

theorem State.All.add {state : State} (all : state.All P) {content : Text}
    (signs : ∀ sign ∈ content, P sign) (last : Nat) : (state.add content last).All P :=
  List.forall_mem_cons.mpr ⟨signs, all⟩

/-- What a step leaves and the pieces that it makes have no new signs. -/
def Keeps (P : Nat → Prop) (result : State × Text) : Prop :=
  result.1.All P ∧ ∀ sign ∈ result.2, P sign

variable {state : State} {rest : Text}

theorem forall_suffix {after : Text} (signs : ∀ sign ∈ rest, P sign) (h : after <:+ rest) :
    ∀ sign ∈ after, P sign :=
  fun sign hsign => signs sign (h.subset hsign)

theorem keeps_newLine (newline : P Sign.newline) (all : state.All P)
    (signs : ∀ sign ∈ rest, P sign) : Keeps P (newLine state rest) := by
  refine ⟨all.add ?_ _, forall_suffix signs (List.dropWhile_suffix _)⟩
  exact List.forall_mem_singleton.mpr newline

theorem mem_codeText {body : Text} {sign : Nat} (h : sign ∈ codeText body) :
    sign ∈ body ∨ sign = Sign.space := by
  have changed (h : sign ∈ body.map fun sign => if sign = Sign.newline then Sign.space else sign) :
      sign ∈ body ∨ sign = Sign.space := by
    obtain ⟨other, hother, rfl⟩ := List.mem_map.mp h
    split
    · exact .inr rfl
    · exact .inl hother
  simp only [codeText] at h
  split at h
  · exact changed (List.drop_subset _ _ (List.dropLast_subset _ h))
  · exact changed h

/-- The pieces around an open bracket are pieces of the line, and so is the bracket. -/
theorem openBracket?_eq_some {pieces inner outer : List Piece} {image active : Bool}
    {behind : Text} (h : openBracket? pieces = some (inner, (image, active, behind), outer)) :
    pieces = inner ++ .bracket image active behind :: outer := by
  induction pieces generalizing inner with
  | nil => cases h
  | cons piece pieces ih =>
      cases piece with
      | bracket image' active' behind' =>
          rw [openBracket?, Option.some.injEq, Prod.mk.injEq, Prod.mk.injEq, Prod.mk.injEq,
            Prod.mk.injEq] at h
          obtain ⟨rfl, ⟨rfl, rfl, rfl⟩, rfl⟩ := h
          rfl
      | text _ _ | run _ =>
          simp only [openBracket?, Option.map_eq_some_iff] at h
          obtain ⟨⟨between, found, rest⟩, hfound, hparts⟩ := h
          rw [Prod.mk.injEq, Prod.mk.injEq] at hparts
          obtain ⟨rfl, rfl, rfl⟩ := hparts
          rw [ih hfound, List.cons_append]

theorem all_deactivate {pieces : List Piece} (all : ∀ piece ∈ pieces, piece.All P) :
    ∀ piece ∈ deactivate pieces, piece.All P := by
  intro piece h
  obtain ⟨other, hother, rfl⟩ := List.mem_map.mp h
  have hall := all other hother
  split
  · exact hall.content
  · exact hall

theorem keeps_closeBracket (labels : List Text) (bracket : P Sign.rightBracket)
    (all : state.All P) (signs : ∀ sign ∈ rest, P sign) :
    Keeps P (closeBracket labels state rest) := by
  have literal : ∀ {pieces : List Piece}, (∀ piece ∈ pieces, piece.All P) →
      ∀ piece ∈ Piece.text [Sign.rightBracket] 0 :: pieces, piece.All P := by
    intro pieces h
    refine List.forall_mem_cons.mpr ⟨fun sign hsign => ?_, h⟩
    rw [List.mem_singleton.mp hsign]
    exact bracket
  simp only [closeBracket]
  split
  · exact ⟨literal all, signs⟩
  · rename_i inner image active behind outer hbracket
    rw [State.All, openBracket?_eq_some hbracket] at all
    obtain ⟨hinner, hrest⟩ := List.forall_mem_append.mp all
    obtain ⟨hopened, houter⟩ := List.forall_mem_cons.mp hrest
    -- without a target the bracket is a text, and so is the one that it closes
    have unmatched : Keeps P ({ state with
        pieces := [Piece.text [Sign.rightBracket] 0] ++ inner ++
          (Piece.bracket image active behind).plain :: outer
        before := some Sign.rightBracket }, rest) := by
      refine ⟨literal (List.forall_mem_append.mpr ⟨hinner, ?_⟩), signs⟩
      exact List.forall_mem_cons.mpr ⟨hopened.plain, houter⟩
    split
    · exact unmatched
    · split
      · exact unmatched
      · rename_i after hafter
        split
        · exact unmatched
        · rename_i piece hpiece
          -- the pieces between the brackets are matched among themselves
          have hlink := Piece.all_wrap? (Piece.all_flatten fun piece h =>
            hinner piece (List.mem_reverse.mp h)) hpiece
          refine ⟨List.forall_mem_cons.mpr ⟨hlink, ?_⟩, forall_suffix signs ?_⟩
          · split
            · exact houter
            · exact all_deactivate houter
          · rw [Option.or_eq_some_iff] at hafter
            rcases hafter with h | ⟨-, h⟩
            · exact Link.afterTarget?_suffix h
            · exact afterReference?_suffix h

theorem keeps_readAngle (less : P Sign.lessThan) (all : state.All P)
    (signs : ∀ sign ∈ rest, P sign) : Keeps P (readAngle state rest) := by
  rw [readAngle]
  split
  · rename_i address after haddress
    have hrest : rest = address ++ Sign.greaterThan :: after := by
      rw [Option.or_eq_some_iff] at haddress
      rcases haddress with h | ⟨-, h⟩
      · exact link?_eq_some h
      · exact mail?_eq_some h
    rw [hrest] at signs
    obtain ⟨hsigns, hbehind⟩ := List.forall_mem_append.mp signs
    refine ⟨all.add ?_ _, (List.forall_mem_cons.mp hbehind).2⟩
    split
    · refine List.forall_mem_cons.mpr ⟨less, List.forall_mem_append.mpr ⟨hsigns, ?_⟩⟩
      refine List.forall_mem_singleton.mpr ?_
      exact hbehind _ List.mem_cons_self
    · exact hsigns
  · split
    · rename_i after hafter
      have htag : ∀ sign ∈ Sign.lessThan :: rest.take (rest.length - after.length), P sign :=
        List.forall_mem_cons.mpr ⟨less, fun sign h => signs sign (List.take_subset _ _ h)⟩
      exact ⟨all.add htag Sign.greaterThan,
        forall_suffix signs (Html.afterInline?_suffix hafter)⟩
    · refine ⟨all.add ?_ _, signs⟩
      exact List.forall_mem_singleton.mpr less

/-- A step brings no signs in but line feeds and spaces. -/
theorem keeps_step (labels : List Text) (newline : P Sign.newline) (space : P Sign.space)
    {sign : Nat} (first : P sign) (all : state.All P) (signs : ∀ sign ∈ rest, P sign) :
    Keeps P (step labels state sign rest) := by
  have single : ∀ other ∈ [sign], P other :=
    List.forall_mem_singleton.mpr first
  have plain : ∀ {content after : Text} {last : Nat}, (∀ sign ∈ content, P sign) →
      after <:+ rest → Keeps P (state.add content last, after) :=
    fun hcontent hafter => ⟨all.add hcontent _, forall_suffix signs hafter⟩
  have drops (dropped : Nat → Bool) : rest.dropWhile dropped <:+ rest := List.dropWhile_suffix _
  rw [step.eq_def]
  split
  · -- a backslash
    rename_i hsign
    split
    · exact keeps_newLine newline all (List.forall_mem_cons.mp signs).2
    · rename_i next after _
      obtain ⟨hnext, hafter⟩ := List.forall_mem_cons.mp signs
      split
      · refine ⟨all.add ?_ _, hafter⟩
        exact List.forall_mem_singleton.mpr hnext
      · exact plain (hsign ▸ single) List.suffix_rfl
    · exact plain (hsign ▸ single) List.suffix_rfl
  split
  -- a line feed drops the white space behind it
  · exact keeps_newLine newline all signs
  split
  · -- a run of spaces
    split
    · rename_i after hline
      have hrest := drops (· == Sign.space)
      rw [hline] at hrest
      exact keeps_newLine newline all
        (forall_suffix signs ((List.suffix_cons _ after).trans hrest))
    · refine plain (List.forall_mem_cons.mpr ⟨first, fun other h => ?_⟩) (drops _)
      exact signs other (List.takeWhile_subset _ h)
  split
  · -- a run of backticks
    rename_i hsign
    simp only
    split
    · rename_i body after hbody
      obtain ⟨hsubset, hafter⟩ := codeBody?_subset hbody
      refine plain (fun other h => ?_) (hafter.trans (drops _))
      rcases mem_codeText h with h | rfl
      · exact signs other ((drops _).subset (hsubset h))
      · exact space
    · refine plain (fun other h => ?_) (drops _)
      rw [List.eq_of_mem_replicate h, ← hsign]
      exact first
  split
  -- a run of asterisks or underscores waits for its match
  · exact ⟨List.forall_mem_cons.mpr ⟨first, all⟩, forall_suffix signs (drops _)⟩
  split
  -- an opening bracket waits for its match too
  · rename_i hsign
    rw [hsign] at single
    exact ⟨List.forall_mem_cons.mpr ⟨single, all⟩, signs⟩
  split
  -- an exclamation mark may begin an image
  · rename_i hsign
    split
    · rename_i after
      obtain ⟨hbracket, hafter⟩ := List.forall_mem_cons.mp signs
      rw [hsign] at first
      have image : ∀ other ∈ [Sign.exclamation, Sign.leftBracket], P other :=
        List.forall_mem_cons.mpr ⟨first,
          List.forall_mem_singleton.mpr hbracket⟩
      exact ⟨List.forall_mem_cons.mpr ⟨image, all⟩, hafter⟩
    · exact plain single List.suffix_rfl
  split
  -- a closing bracket makes a link of what stands behind the one it closes
  · rename_i hsign
    exact keeps_closeBracket labels (hsign ▸ first) all signs
  split
  -- an angle may open an address or HTML
  · rename_i hsign
    exact keeps_readAngle (hsign ▸ first) all signs
  -- all other signs are read up to the next one that may mean something
  · refine plain (List.forall_mem_cons.mpr ⟨first, fun other h => ?_⟩) (List.drop_suffix _ _)
    exact signs other (List.takeWhile_subset _ h)

/-! ## (3) Texts -/

theorem all_scan (labels : List Text) (newline : P Sign.newline) (space : P Sign.space)
    (steps : Nat) {text : Text} (all : state.All P) (signs : ∀ sign ∈ text, P sign) :
    (scan labels steps state text).All P := by
  induction steps generalizing state text with
  | zero => exact all
  | succ steps ih =>
      cases text with
      | nil => exact all
      | cons sign text =>
          obtain ⟨hsign, htext⟩ := List.forall_mem_cons.mp signs
          obtain ⟨hstate, hrest⟩ := keeps_step labels newline space hsign all htext
          exact ih hstate hrest

/-- **The visible text has no signs of its own** but line feeds and spaces. -/
theorem forall_mem_visible (labels : List Text) {source : Text} (newline : P Sign.newline)
    (space : P Sign.space) (signs : ∀ sign ∈ source, P sign) :
    ∀ sign ∈ visible labels source, P sign := by
  have hsource : ∀ sign ∈ Text.trim isTrimmed source, P sign :=
    fun sign h => signs sign ((Text.trim_isInfix _ _).subset h)
  refine (Piece.all_flatten fun piece h => ?_).content
  refine all_scan labels newline space _ ?_ hsource piece (List.mem_reverse.mp h)
  exact fun piece h => absurd h List.not_mem_nil

end Inline

end Coursework.Markdown
