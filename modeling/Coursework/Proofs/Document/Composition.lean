import Coursework.Proofs.Document.Contiguity

/-! # Compiling in parts

A document is compiled token by token: each step adds its operations behind the earlier ones and
hands the cursor on. So the operations of a document in two parts are those of its parts, the first
position only moves them all, and a token that shows nothing may stand anywhere.

* **`Token.thread`** is the fold of the steps, **`Token.thread_eq_compileAll`** that it agrees with
  the recursion over the tokens.
* **`Placed.shift`** moves operations and their cursor, **`Token.compileAll_shift`** is what a later
  start does to tokens.
* **`Token.isSilent`** tells tokens that show nothing; **`Token.compileAll_voiced`** leaves them
  out.
* **`Compilation.compositional`** is the main statement. -/

namespace Coursework

open Page

/-! ## (1) Moving operations -/

namespace Operation

/-- An operation with all its positions moved. -/
def shift (offset : Int) : Operation → Operation
  | insertText index content => insertText (index + offset) content
  | setParagraphStyle first last styleName =>
    setParagraphStyle (first + offset) (last + offset) styleName
  | setListBullets first last preset => setListBullets (first + offset) (last + offset) preset
  | setTextStyle first last fontFamily weight =>
    setTextStyle (first + offset) (last + offset) fontFamily weight

end Operation

namespace Placed

/-- Operations with all their positions moved, and the cursor with them. -/
def shift (offset : Int) (placed : Placed) : Placed :=
  ⟨placed.operations.map (Operation.shift offset), placed.cursor + offset⟩

/-- Operations behind others, with the cursor that they leave. -/
def append (before behind : Placed) : Placed :=
  ⟨before.operations ++ behind.operations, behind.cursor⟩

@[simp] theorem append_assoc (first second third : Placed) :
    (first.append second).append third = first.append (second.append third) :=
  congrArg (Placed.mk · third.cursor) (List.append_assoc _ _ _)

end Placed

@[simp] theorem Style.shift_operation (style : Style) (first last offset : Int) :
    (style.operation first last).shift offset
      = style.operation (first + offset) (last + offset) := by
  cases style <;> rfl

namespace Page

/-- The operations of a line that stands further on. -/
theorem Entry.operations_shift (cursor offset : Int) (entry : Entry) :
    entry.operations (cursor + offset)
      = (entry.operations cursor).map (Operation.shift offset) := by
  simp only [Entry.operations, List.map_cons, List.map_map, Operation.shift]
  refine congrArg _ (List.map_congr_left fun style _ => ?_)
  rw [Function.comp_apply, Style.shift_operation, Int.add_right_comm]

/-- The operations of lines that stand further on. -/
theorem place_shift (cursor offset : Int) (entries : List Entry) :
    place (cursor + offset) entries = (place cursor entries).map (Operation.shift offset) := by
  induction entries generalizing cursor with
  | nil => rfl
  | cons entry entries ih =>
      rw [place_cons, place_cons, List.map_append, ← Entry.operations_shift, ← ih,
        Int.add_right_comm]

end Page

namespace Token

/-- Tokens from a later start on have the same operations further on. -/
theorem compileAll_shift {cursor offset : Int} (start : 1 ≤ cursor) (later : 1 ≤ cursor + offset)
    {tokens : List Token} (encodable : ∀ token ∈ tokens, token.Encodable) :
    compileAll (cursor + offset) tokens
      = (compileAll cursor tokens).map (Placed.shift offset) := by
  rw [compileAll_eq_place later encodable, compileAll_eq_place start encodable, place_shift,
    Int.add_right_comm]
  rfl

/-! ## (2) The fold -/

/-- One more token behind those that are placed. -/
def step (placed : Placed) (token : Token) : Outcome Placed := do
  let next ← token.compile placed.cursor
  return placed.append next

/-- The operations of tokens from a cursor on, collected step by step. -/
def thread (cursor : Int) (tokens : List Token) : Outcome Placed :=
  tokens.foldlM step ⟨[], cursor⟩

/-- Tokens behind those that are placed are compiled from the cursor on. -/
theorem foldlM_step (placed : Placed) (tokens : List Token) :
    tokens.foldlM step placed = (compileAll placed.cursor tokens).map placed.append := by
  induction tokens generalizing placed with
  | nil =>
      have same : placed.append ⟨[], placed.cursor⟩ = placed :=
        congrArg (Placed.mk · placed.cursor) (List.append_nil placed.operations)
      exact congrArg Except.ok same.symm
  | cons token tokens ih =>
      rw [List.foldlM_cons, step, compileAll]
      cases token.compile placed.cursor with
      | error failure => rfl
      | ok next =>
          have rest := ih (placed.append next)
          simp only [bind, Except.bind, pure, Except.pure, rest]
          cases h : compileAll next.cursor tokens with
          | error failure => rw [Placed.append, h]; rfl
          | ok behind =>
              rw [Placed.append, h]
              exact congrArg Except.ok (Placed.append_assoc placed next behind)

theorem thread_eq_compileAll (cursor : Int) (tokens : List Token) :
    thread cursor tokens = compileAll cursor tokens := by
  rw [thread, foldlM_step]
  cases compileAll cursor tokens <;> rfl

/-- Tokens in two parts: the second starts where the first ends. -/
theorem thread_append (cursor : Int) (first second : List Token) :
    thread cursor (first ++ second) =
      (thread cursor first).bind fun before =>
        (thread before.cursor second).map before.append := by
  rw [thread, List.foldlM_append, ← thread.eq_def]
  cases thread cursor first with
  | error failure => rfl
  | ok before =>
      simp only [bind, Except.bind]
      rw [thread_eq_compileAll]
      exact foldlM_step before second

/-! ## (3) Tokens that show nothing -/

/-- Whether a token is space or of a kind without a form. -/
def isSilent (token : Token) : Bool := token.isSpace || token.unrecognised?.isSome

theorem compile_of_isSilent {token : Token} (silent : token.isSilent = true) (cursor : Int) :
    token.compile cursor = .ok ⟨[], cursor⟩ := by
  cases token with
  | space | unknown _ | foreign _ => rfl
  | heading _ _ | paragraph _ | list _ _ | code _ => cases silent

/-- Tokens that show nothing may be left out. -/
theorem compileAll_voiced (cursor : Int) (tokens : List Token) :
    compileAll cursor (tokens.filter (!·.isSilent)) = compileAll cursor tokens := by
  induction tokens generalizing cursor with
  | nil => rfl
  | cons token tokens ih =>
      by_cases silent : token.isSilent
      · rw [List.filter_cons_of_neg (by simp [silent]), ih, compileAll,
          compile_of_isSilent silent]
        simp only [bind, Except.bind, pure, Except.pure, List.nil_append]
        cases compileAll cursor tokens <;> rfl
      · rw [List.filter_cons_of_pos (by simp [silent]), compileAll, compileAll]
        exact congrArg (token.compile cursor >>= ·) (funext fun first => by rw [ih])

end Token

/-! ## (4) Documents -/

namespace Compilation

/-- The operations of a document and the cursor behind them, without what was noticed. -/
def placed (compilation : Compilation) : Placed :=
  ⟨compilation.operations, compilation.finalCursor⟩

/-- A document is the fold from the first position on, unless that inserts nothing. -/
theorem placed_ofTokens (source : Text) {tokens : List Token}
    (shown : ∀ whole, Token.thread startIndex tokens = .ok whole → whole.operations ≠ []) :
    (ofTokens source tokens).map placed = Token.thread startIndex tokens := by
  rw [Token.thread_eq_compileAll] at shown ⊢
  rw [ofTokens]
  cases h : Token.compileAll startIndex tokens with
  | error failure => rfl
  | ok whole =>
      have filled : ¬whole.operations.isEmpty = true := by
        rw [List.isEmpty_iff]
        exact shown whole h
      simp only [bind, Except.bind]
      rw [if_neg filled]
      rfl

/-- Documents that differ in tokens that show nothing have the same operations. -/
theorem placed_ofTokens_voiced (source : Text) {tokens others : List Token}
    (same : others.filter (!·.isSilent) = tokens.filter (!·.isSilent)) :
    (ofTokens source others).map placed = (ofTokens source tokens).map placed := by
  have compiled : Token.compileAll startIndex others = Token.compileAll startIndex tokens := by
    rw [← Token.compileAll_voiced startIndex others, same, Token.compileAll_voiced]
  rw [ofTokens, ofTokens, compiled]
  cases Token.compileAll startIndex tokens with
  | error failure => rfl
  | ok whole =>
      simp only [bind, Except.bind]
      split
      -- only what was noticed differs: the fallback is made from the source alone
      · cases (fallbackHeading ++ source).documentLength <;> rfl
      · rfl

/-- **Tokens are compiled in parts.** From the first position on, tokens without surrogates are
compiled; the operations of two parts are those of the first, followed by those of the second from
the cursor that the first leaves; and a start elsewhere moves every position and the cursor by the
same offset and changes nothing else. A document has the operations and the cursor of the fold from
the first position on whenever the fold inserts anything, and keeps them if space and tokens
without a form are added or left out. -/
theorem compositional {cursor : Int} (start : 1 ≤ cursor) {first second : List Token}
    (encodable : ∀ token ∈ first ++ second, token.Encodable) :
    ∃ before behind, Token.thread cursor first = .ok before ∧
      Token.thread before.cursor second = .ok behind ∧
      Token.thread cursor (first ++ second) =
        .ok ⟨before.operations ++ behind.operations, behind.cursor⟩ ∧
      (∀ offset : Int, 1 ≤ cursor + offset →
        Token.thread (cursor + offset) first = .ok (before.shift offset)) ∧
      ∀ (source : Text) (tokens : List Token),
        ((∀ whole, Token.thread startIndex tokens = .ok whole → whole.operations ≠ []) →
          (ofTokens source tokens).map placed = Token.thread startIndex tokens) ∧
        ∀ others : List Token,
          others.filter (!·.isSilent) = tokens.filter (!·.isSilent) →
            (ofTokens source others).map placed = (ofTokens source tokens).map placed := by
  obtain ⟨hfirst, hsecond⟩ := List.forall_mem_append.mp encodable
  have before := Token.compileAll_eq_place start hfirst
  have onward : 1 ≤ cursor + (Text.units (first.flatMap Token.text) : Int) := by omega
  have behind := Token.compileAll_eq_place onward hsecond
  refine ⟨_, _, (Token.thread_eq_compileAll _ _).trans before,
    (Token.thread_eq_compileAll _ _).trans behind, ?_, ?_, ?_⟩
  · rw [Token.thread_append, Token.thread_eq_compileAll, before]
    simp only [Except.bind]
    rw [Token.thread_eq_compileAll, behind]
    rfl
  · intro offset later
    rw [Token.thread_eq_compileAll, Token.compileAll_shift start later hfirst, before]
    rfl
  · intro source tokens
    exact ⟨placed_ofTokens source, fun others same => placed_ofTokens_voiced source same⟩

/-- A heading with a code point of two units and a list with a blank item, three positions on. -/
theorem compositional_heading_list :
    let first : List Token := [.heading 2 [0x1F600], .space]
    let second : List Token := [.list false [[120], [32], [121]]]
    ∃ before behind, Token.thread 5 first = .ok before ∧
      Token.thread before.cursor second = .ok behind ∧ before.cursor = 8 ∧ behind.cursor = 16 ∧
      Token.thread 8 first = .ok (before.shift 3) := by
  intro first second
  obtain ⟨before, behind, hbefore, hbehind, -, moved, -⟩ :=
    compositional (by decide : (1 : Int) ≤ 5)
      (by decide : ∀ token ∈ first ++ second, token.Encodable)
  have placed : Token.thread 5 first = .ok ⟨[.insertText 5 [0x1F600, 10],
    .setParagraphStyle 5 8 "HEADING_2"], 8⟩ := by rfl
  obtain rfl := Except.ok.inj (hbefore.symm.trans placed)
  have cursors : (Token.thread 8 second).map Placed.cursor = .ok 16 := by rfl
  rw [hbehind] at cursors
  exact ⟨_, behind, hbefore, hbehind, rfl, Except.ok.inj cursors, moved 3 (by decide)⟩

end Compilation

end Coursework
