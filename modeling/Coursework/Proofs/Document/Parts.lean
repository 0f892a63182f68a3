import Coursework.Proofs.Document.Shape
import Coursework.Proofs.Document.Totality
import Coursework.Proofs.Markdown.Parts

/-! # Documents of parts

What becomes of the parts of a markdown document, if it is read as its parts: each one is a token,
and one line of the compiled document.

* **`Part.tokensOf`** are the tokens; `mem_tokensOf` says which there are.
* **`Part.entry`** is the line of a part; **`Part.flatMap_entries_tokensOf`**: there are no others.
* **`Part.encodable_tokensOf`**: parts without surrogates are shown without surrogates.
* **`Part.read_eq_tokensOf`**: parts without marks are read as their tokens. -/

namespace Coursework

open Markdown Page

namespace Markdown.Part

/-- The line of a part in a compiled document. -/
def entry (part : Part) : Entry where
  style? := match part with
    | heading _ depth _ => some (.paragraph (Token.headingStyle depth))
    | text _ _ => none
  content := Token.line (Inline.visible [] part.source)

/-- The token of a part, where no label is defined. -/
def token (part : Part) : Token := Token.ofBlock [] part.block

/-- The tokens of parts, with space between each two. -/
def tokensOf (parts : List Part) : List Token := (blocksOf parts).map (Token.ofBlock [])

theorem entries_token (part : Part) : part.token.entries = [part.entry] := by
  cases part <;> rfl

/-- The blocks of a document are those of its parts and blank lines. -/
theorem mem_blocksOf {parts : List Part} {block : Block} (member : block ∈ blocksOf parts) :
    block = .blank ∨ ∃ part ∈ parts, block = part.block := by
  have behind {parts : List Part} (h : block ∈ blocksBehind parts) :
      block = .blank ∨ ∃ part ∈ parts, block = part.block := by
    induction parts with
    | nil => cases h
    | cons part parts ih =>
        rw [blocksBehind, List.mem_cons, List.mem_cons] at h
        rcases h with rfl | rfl | h
        · exact .inl rfl
        · exact .inr ⟨part, List.mem_cons_self, rfl⟩
        · rcases ih h with h | ⟨found, hfound, same⟩
          · exact .inl h
          · exact .inr ⟨found, List.mem_cons_of_mem _ hfound, same⟩
  cases parts with
  | nil => cases member
  | cons part parts =>
      rcases List.mem_cons.mp member with rfl | h
      · exact .inr ⟨part, List.mem_cons_self, rfl⟩
      · rcases behind h with rfl | ⟨found, hfound, rfl⟩
        · exact .inl rfl
        · exact .inr ⟨found, List.mem_cons_of_mem _ hfound, rfl⟩

/-- The tokens of a document are those of its parts and space. -/
theorem mem_tokensOf {parts : List Part} {token : Token} (member : token ∈ tokensOf parts) :
    token = .space ∨ ∃ part ∈ parts, token = part.token := by
  obtain ⟨block, hblock, rfl⟩ := List.mem_map.mp member
  rcases mem_blocksOf hblock with rfl | ⟨part, hpart, rfl⟩
  · exact .inl rfl
  · exact .inr ⟨part, hpart, rfl⟩

/-- The lines of a document are those of its parts. -/
theorem flatMap_entries_tokensOf (parts : List Part) :
    (tokensOf parts).flatMap Token.entries = parts.map entry := by
  have behind (parts : List Part) :
      ((blocksBehind parts).map (Token.ofBlock [])).flatMap Token.entries = parts.map entry := by
    induction parts with
    | nil => rfl
    | cons part parts ih =>
        rw [blocksBehind, List.map_cons, List.map_cons, List.flatMap_cons, List.flatMap_cons, ih,
          ← token, entries_token]
        rfl
  cases parts with
  | nil => rfl
  | cons part parts =>
      rw [tokensOf, blocksOf, List.map_cons, List.flatMap_cons, behind, ← token, entries_token]
      rfl

/-- The tokens of a document apart from space are those of its parts. -/
theorem filter_tokensOf (parts : List Part) :
    (tokensOf parts).filter (! ·.isSpace) = parts.map token := by
  have own (part : Part) (tokens : List Token) :
      (part.token :: tokens).filter (! ·.isSpace) = part.token :: tokens.filter (! ·.isSpace) := by
    cases part <;> rfl
  have behind (parts : List Part) :
      ((blocksBehind parts).map (Token.ofBlock [])).filter (! ·.isSpace) = parts.map token := by
    induction parts with
    | nil => rfl
    | cons part parts ih => exact (own part _).trans (congrArg _ ih)
  cases parts with
  | nil => rfl
  | cons part parts => exact (own part _).trans (congrArg _ (behind parts))

/-- A document that is read as parts has their tokens. -/
theorem ofMarkdown_eq_tokensOf {source : Text} {parts : List Part} (shown : source ≠ [])
    (blocks : Block.ofText source = (blocksOf parts, [])) :
    Token.ofMarkdown source = tokensOf parts := by
  rw [Token.ofMarkdown, if_neg (mt List.isEmpty_iff.mp shown), blocks]
  rfl

/-- The source of a part is the only one of its block. -/
theorem sources_block (part : Part) : part.block.sources = [part.source] := by
  cases part <;> rfl

/-- A document that is read as parts without marks is read as their tokens: it has no links. -/
theorem read_eq_tokensOf {source : Text} {parts : List Part} (shown : source ≠ [])
    (blocks : Block.ofText source = (blocksOf parts, []))
    (unmarked : ∀ part ∈ parts, ∀ sign ∈ part.source, Inline.isMarkup sign = false) :
    Token.read source = .ok (tokensOf parts) := by
  have none : Token.destinations source = [] := by
    refine Token.destinations_eq_nil blocks fun block hblock => ?_
    rcases mem_blocksOf hblock with rfl | ⟨part, hpart, rfl⟩
    · exact signs_nil
    · rw [sources_block]
      exact signs_cons.mpr ⟨unmarked part hpart, signs_nil⟩
  rw [Token.read_of_destinations_eq_nil none, ofMarkdown_eq_tokensOf shown blocks]

/-- The tokens of a document have a form. -/
theorem unrecognised?_tokensOf {parts : List Part} {token : Token}
    (member : token ∈ tokensOf parts) : token.unrecognised? = none := by
  rcases mem_tokensOf member with rfl | ⟨part, -, rfl⟩
  · rfl
  · cases part <;> rfl

/-- They have no surrogates if the parts have none. -/
theorem encodable_tokensOf {parts : List Part}
    (plain : ∀ part ∈ parts, part.source.hasSurrogate = false) {token : Token}
    (member : token ∈ tokensOf parts) : token.Encodable := by
  rcases mem_tokensOf member with rfl | ⟨part, hpart, rfl⟩
  · exact fun content h => absurd h List.not_mem_nil
  · have hvisible : (Inline.visible [] part.source).hasSurrogate = false :=
      Text.hasSurrogate_eq_false_iff.mpr <| Inline.forall_mem_visible [] (by decide) (by decide) <|
        Text.hasSurrogate_eq_false_iff.mp (plain part hpart)
    cases part with
    | heading line depth content | text first more =>
        intro found h
        rw [List.mem_singleton.mp h]
        exact hvisible

end Markdown.Part

end Coursework
