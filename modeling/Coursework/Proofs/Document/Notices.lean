import Coursework.Proofs.Document.Totality

/-! # What is noticed about a document

A compiled document tells of every token without a form, at the position behind the texts of the
tokens before it. If no token shows anything, the source is inserted as it is, and that is told
last. Only a text that is inserted can stop the compilation, so the source matters in that case
alone.

* **`Token.shown`** are the texts of a token that are inserted, **`Token.isIdle`** tells tokens
  that insert nothing.
* **`Token.notices`** are the diagnostics, told by the places of the tokens;
  **`Token.diagnose_eq_notices`** is that the recursion over the tokens gives them.
* **`Compilation.ofTokens_idle`** and **`Compilation.ofTokens_busy`** are the two kinds of
  documents.
* **`Compilation.reports_ofTokens`** is the main statement. -/

namespace Coursework

open Page

/-! ## (1) Inserted texts -/

/-- The text that an operation inserts. -/
def Operation.inserted : Operation → Text
  | insertText _ content => content
  | setParagraphStyle _ _ _ | setListBullets _ _ _ | setTextStyle _ _ _ _ => []

/-- Lines that are put behind each other insert their text in order. -/
theorem Page.flatMap_inserted_place (cursor : Int) (entries : List Entry) :
    (place cursor entries).flatMap Operation.inserted = Entry.text entries := by
  induction entries generalizing cursor with
  | nil => rfl
  | cons entry entries ih =>
      have style : (entry.operations cursor).flatMap Operation.inserted = entry.content := by
        obtain ⟨style?, content⟩ := entry
        rcases style? with _ | style
        · exact List.append_nil content
        · cases style <;> exact List.append_nil content
      rw [place_cons, List.flatMap_append, style, ih, Entry.text_cons]

namespace Token

/-- The texts of a token that are inserted: of a list those of the items that are not blank. -/
def shown : Token → List Text
  | heading _ content | paragraph content | code content => [content]
  | list _ items => items.filter (!·.isBlank)
  | space | unknown _ | foreign _ => []

/-- Whether a token inserts nothing: space, a token without a form, and a list whose items are all
blank. -/
def isIdle : Token → Bool
  | heading _ _ | paragraph _ | code _ => false
  | list _ items => items.all Text.isBlank
  | space | unknown _ | foreign _ => true

/-- A token has an encoded form if the texts that it inserts have one, as white space has. -/
theorem encodable_iff_shown {token : Token} :
    token.Encodable ↔ ∀ content ∈ token.shown, content.hasSurrogate = false := by
  cases token with
  | heading _ _ | paragraph _ | code _ | space | unknown _ | foreign _ => exact Iff.rfl
  | list ordered items =>
      constructor
      · exact fun encodable content member => encodable content (List.mem_of_mem_filter member)
      · intro plain item member
        cases blank : item.isBlank with
        | true => exact hasSurrogate_of_isBlank blank
        | false => exact plain item (List.mem_filter.mpr ⟨member, by rw [blank]; rfl⟩)

/-- An idle token inserts no text. -/
theorem shown_of_isIdle {token : Token} (idle : token.isIdle = true) : token.shown = [] := by
  cases token with
  | heading _ _ | paragraph _ | code _ => cases idle
  | list ordered items =>
      refine List.filter_eq_nil_iff.mpr fun item member => ?_
      rw [List.all_eq_true.mp idle item member]
      exact Bool.false_ne_true
  | space | unknown _ | foreign _ => rfl

theorem encodable_of_isIdle {token : Token} (idle : token.isIdle = true) : token.Encodable := by
  rw [encodable_iff_shown, shown_of_isIdle idle]
  exact fun _ member => absurd member List.not_mem_nil

/-- The items of a list have no line exactly if they are all blank. -/
theorem itemLines_eq_nil_iff {ordered : Bool} {number : Nat} {items : List Text} :
    itemLines ordered number items = [] ↔ items.all Text.isBlank = true := by
  induction items generalizing number with
  | nil => exact iff_of_true rfl rfl
  | cons item items ih =>
      rw [itemLines, List.all_cons, Bool.and_eq_true]
      split
      · rename_i blank
        rw [ih, blank, eq_self_iff_true, true_and]
      · rename_i shown
        exact iff_of_false (List.cons_ne_nil _ _) fun blank => shown blank.1

/-- Idle tokens are those without lines. -/
theorem entries_eq_nil_iff {token : Token} : token.entries = [] ↔ token.isIdle = true := by
  rw [entries, List.map_eq_nil_iff]
  cases token with
  | heading _ _ | paragraph _ | code _ =>
      exact iff_of_false (List.cons_ne_nil _ _) Bool.false_ne_true
  | list ordered items => exact itemLines_eq_nil_iff
  | space | unknown _ | foreign _ => exact iff_of_true rfl rfl

theorem isEmpty_entries_eq_all (tokens : List Token) :
    (tokens.flatMap entries).isEmpty = tokens.all isIdle := by
  rw [Bool.eq_iff_iff, List.isEmpty_iff, List.flatMap_eq_nil_iff, List.all_eq_true]
  exact forall₂_congr fun token _ => entries_eq_nil_iff

/-! ## (2) Diagnostics -/

/-- The diagnostics about tokens: one for each token without a form, in order, with its kind and
the position behind the texts of the tokens before it. -/
def notices (cursor : Int) (tokens : List Token) : List Diagnostic :=
  tokens.zipIdx.filterMap fun found => found.1.unrecognised?.map fun kind =>
    .unrecognised kind (cursor + Text.units ((tokens.take found.2).flatMap text))

theorem notices_cons (cursor : Int) (token : Token) (tokens : List Token) :
    notices cursor (token :: tokens) =
      (token.unrecognised?.map fun kind => .unrecognised kind cursor).toList ++
        notices (cursor + token.text.units) tokens := by
  -- the places of the other tokens count from 1, and one token more stands before each of them
  have later : (tokens.zipIdx 1).filterMap (fun found => found.1.unrecognised?.map fun kind =>
        Diagnostic.unrecognised kind
          (cursor + Text.units (((token :: tokens).take found.2).flatMap text))) =
      notices (cursor + token.text.units) tokens := by
    rw [notices, List.zipIdx_succ, List.filterMap_map]
    refine List.filterMap_congr fun found _ => ?_
    simp only [Function.comp_apply, List.take_succ_cons, List.flatMap_cons, Text.units_append,
      Int.natCast_add, Int.add_assoc]
  rw [notices, List.zipIdx_cons, List.filterMap_cons, later]
  cases token.unrecognised? with
  | none => rfl
  | some kind => simp

/-- The diagnostics that are collected step by step. -/
theorem diagnose_eq_notices {cursor : Int} (start : 1 ≤ cursor) {tokens : List Token}
    (encodable : ∀ token ∈ tokens, token.Encodable) :
    diagnose cursor tokens = notices cursor tokens := by
  induction tokens generalizing cursor with
  | nil => rfl
  | cons token tokens ih =>
      obtain ⟨own, others⟩ := List.forall_mem_cons.mp encodable
      have later : 1 ≤ cursor + (token.text.units : Int) := by omega
      rw [diagnose, compile_eq_place start own, notices_cons, ← ih later others]
      cases token.unrecognised? <;> rfl

end Token

/-! ## (3) Documents -/

namespace Compilation

/-- Idle tokens leave the source alone to be inserted. -/
theorem ofTokens_idle (source : Text) {tokens : List Token}
    (idle : tokens.all Token.isIdle = true) :
    ofTokens source tokens = (fallbackHeading ++ source).documentLength.map fun length =>
      ⟨[.insertText startIndex (fallbackHeading ++ source)], startIndex + length,
        Token.notices startIndex tokens ++ [.emptyOutput source.length]⟩ := by
  have encodable : ∀ token ∈ tokens, token.Encodable := fun token member =>
    Token.encodable_of_isIdle (List.all_eq_true.mp idle token member)
  have start : (1 : Int) ≤ startIndex := Int.le_refl 1
  have empty : (place startIndex (tokens.flatMap Token.entries)).isEmpty = true := by
    rw [isEmpty_place, Token.isEmpty_entries_eq_all, idle]
  rw [ofTokens, Token.compileAll_eq_place start encodable,
    Token.diagnose_eq_notices start encodable]
  simp only [bind, Except.bind]
  rw [if_pos empty]
  cases (fallbackHeading ++ source).documentLength <;> rfl

/-- Any other tokens are compiled to their lines, whatever the source is. -/
theorem ofTokens_busy (source : Text) {tokens : List Token}
    (encodable : ∀ token ∈ tokens, token.Encodable) (busy : ¬tokens.all Token.isIdle = true) :
    ofTokens source tokens = .ok ⟨place startIndex (tokens.flatMap Token.entries),
      startIndex + Text.units (tokens.flatMap Token.text), Token.notices startIndex tokens⟩ := by
  have start : (1 : Int) ≤ startIndex := Int.le_refl 1
  have filled : ¬(place startIndex (tokens.flatMap Token.entries)).isEmpty = true := by
    rwa [isEmpty_place, Token.isEmpty_entries_eq_all]
  rw [ofTokens, Token.compileAll_eq_place start encodable,
    Token.diagnose_eq_notices start encodable]
  simp only [bind, Except.bind]
  rw [if_neg filled]
  rfl

/-- Tokens with a surrogate fail in the same way with every source. -/
theorem exists_ofTokens_error {tokens : List Token}
    (faulty : ¬∀ token ∈ tokens, token.Encodable) :
    ∃ failure, ∀ source, ofTokens source tokens = .error failure := by
  cases compiled : Token.compileAll startIndex tokens with
  | ok placed => exact absurd (Token.encodable_of_compileAll compiled) faulty
  | error failure => exact ⟨failure, fun source => by rw [ofTokens, compiled]; rfl⟩

/-- A document is stopped by the surrogates of its tokens, and by those of its source if the tokens
are idle. -/
theorem exists_ofTokens_error_iff (source : Text) (tokens : List Token) :
    (∃ failure, ofTokens source tokens = .error failure) ↔
      (¬∀ token ∈ tokens, token.Encodable) ∨
        tokens.all Token.isIdle = true ∧ source.hasSurrogate = true := by
  by_cases encodable : ∀ token ∈ tokens, token.Encodable
  · by_cases idle : tokens.all Token.isIdle = true
    · rw [ofTokens_idle source idle]
      have heading : (fallbackHeading ++ source).hasSurrogate = source.hasSurrogate := by
        rw [Text.hasSurrogate_append]
        rfl
      cases plain : source.hasSurrogate with
      | false =>
          rw [Token.documentLength_eq_ok (heading.trans plain)]
          exact iff_of_false (by rintro ⟨failure, ⟨⟩⟩) (by simpa using encodable)
      | true =>
          cases measured : (fallbackHeading ++ source).documentLength with
          | ok length =>
              have h := Token.hasSurrogate_of_documentLength measured
              rw [heading, plain] at h
              cases h
          | error failure => exact iff_of_true ⟨failure, rfl⟩ (.inr ⟨idle, rfl⟩)
    · rw [ofTokens_busy source encodable idle]
      exact iff_of_false (by rintro ⟨failure, ⟨⟩⟩)
        (not_or.mpr ⟨not_not_intro encodable, fun h => idle h.1⟩)
  · obtain ⟨failure, failed⟩ := exists_ofTokens_error encodable
    exact iff_of_true ⟨failure, failed source⟩ (.inl encodable)

/-- **What is noticed about a document, and what stops it.** The compilation stops exactly if a text
that is to be inserted has a surrogate: one of a token, or the source if no token inserts anything.
Otherwise there is one diagnostic for each token without a form, in order, with its kind and the
position behind the texts of the tokens before it. If no token inserts anything, the source is
inserted alone and this is told last. Else the texts of the tokens are inserted in order, and the
source makes no difference. -/
theorem reports_ofTokens (source : Text) (tokens : List Token) :
    (∀ failure, ofTokens source tokens = .error failure → failure.IsUnencodable) ∧
      ((∃ failure, ofTokens source tokens = .error failure) ↔
        (∃ token ∈ tokens, ∃ content ∈ token.shown, content.hasSurrogate = true) ∨
          tokens.all Token.isIdle = true ∧ source.hasSurrogate = true) ∧
      (∀ compilation, ofTokens source tokens = .ok compilation →
        if tokens.all Token.isIdle = true then
          compilation.diagnostics =
              Token.notices startIndex tokens ++ [.emptyOutput source.length] ∧
            compilation.operations = [.insertText startIndex (fallbackHeading ++ source)]
        else
          compilation.diagnostics = Token.notices startIndex tokens ∧
            compilation.operations.flatMap Operation.inserted = tokens.flatMap Token.text) ∧
      (¬tokens.all Token.isIdle = true →
        ∀ other, ofTokens other tokens = ofTokens source tokens) := by
  refine ⟨fun failure => unencodable_of_ofTokens, ?_, fun compilation compiled => ?_,
    fun busy other => ?_⟩
  · rw [exists_ofTokens_error_iff]
    simp [Token.encodable_iff_shown]
  · split
    · rename_i idle
      rw [ofTokens_idle source idle] at compiled
      obtain ⟨length, -, rfl⟩ := Outcome.map_eq_ok_iff.mp compiled
      exact ⟨rfl, rfl⟩
    · rename_i busy
      have whole := ofTokens_busy source (encodable_of_ofTokens compiled) busy
      obtain rfl := Except.ok.inj (whole.symm.trans compiled)
      exact ⟨rfl, (flatMap_inserted_place _ _).trans (Token.text_flatMap_entries tokens)⟩
  · -- the tokens alone decide, whether they have surrogates or not
    by_cases encodable : ∀ token ∈ tokens, token.Encodable
    · rw [ofTokens_busy other encodable busy, ofTokens_busy source encodable busy]
    · obtain ⟨failure, failed⟩ := exists_ofTokens_error encodable
      rw [failed, failed]

end Compilation

end Coursework
