import Coursework.Document.Markdown
import Coursework.Proofs.Document.Contiguity
import Coursework.Proofs.Markdown.Destinations
import Coursework.Proofs.Markdown.Growth

/-! # What stops a compilation

Tokens are placed one after another, and every position is one that an insertion may have. So
nothing but a text without an encoded form stops a compilation, and the tokens of a markdown text
have one if the text has. Before that, nothing but a link without address stops the reading of a
markdown text.

* **`Compilation.unencodable_of_ofTokens`**: the only failures are those of surrogates.
* **`Compilation.exists_ofTokens_iff_of_heading`**: tokens with a heading among them are compiled
  exactly if they have no surrogates, whatever their source is.
* **`Token.encodable_ofMarkdown`**: a text without surrogates has tokens without any.
* **`Token.read_eq_ok_iff`** says when a text is read, **`Compilation.ofMarkdown_eq_ok_iff`** when
  it is compiled, and **`Compilation.unencodable_of_ofMarkdown`** what stops that. -/

namespace Coursework

open Markdown Page

/-! ## (1) Failures -/

/-- A failure is that of a text without an encoded form in UTF-16. -/
def Failure.IsUnencodable (failure : Failure) : Prop :=
  ∃ fault : Unencodable, failure = .unencodable fault ∧ fault.encoding = .utf16

/-- A failure is that of a destination without address, which has no encoded form in UTF-8. -/
def Failure.IsAddressless (failure : Failure) : Prop :=
  ∃ fault : Unencodable, failure = .unencodable fault ∧ fault.encoding = .utf8

/-- Nothing but a surrogate keeps the units of a text from being counted. -/
theorem Text.unencodable_of_documentLength {content : Text} {failure : Failure}
    (failed : content.documentLength = .error failure) : failure.IsUnencodable := by
  obtain ⟨fault, unmeasured, rfl⟩ := Outcome.mapError_eq_error_iff.mp failed
  refine ⟨fault, rfl, ?_⟩
  rw [Text.utf16Length] at unmeasured
  split at unmeasured
  · cases unmeasured
  · cases unmeasured
    rfl

namespace Token

/-- What can stop a step that counts a text and inserts it: the counting. -/
theorem unencodable_of_inserting {cursor : Int} (start : 1 ≤ cursor) {content : Text}
    {placed : Nat → Operation → Placed} {failure : Failure}
    (failed : (do
      let length ← content.documentLength
      let insertion ← Operation.inserting cursor content
      return placed length insertion) = .error failure) : failure.IsUnencodable := by
  rw [inserting_eq_ok start] at failed
  rcases Outcome.bind_eq_error_iff.mp failed with unmeasured | ⟨length, -, inserted⟩
  · exact Text.unencodable_of_documentLength unmeasured
  · cases inserted

theorem unencodable_of_compileItems {ordered : Bool} {number : Nat} {cursor : Int}
    (start : 1 ≤ cursor) {items : List Text} {failure : Failure}
    (failed : compileItems ordered number cursor items = .error failure) :
    failure.IsUnencodable := by
  induction items generalizing number cursor with
  | nil => cases failed
  | cons item items ih =>
      rw [compileItems] at failed
      split at failed
      · exact ih start failed
      · rcases Outcome.bind_eq_error_iff.mp failed with unmeasured | ⟨length, -, failed⟩
        · exact Text.unencodable_of_documentLength unmeasured
        · rw [inserting_eq_ok start] at failed
          rcases Outcome.bind_eq_error_iff.mp failed with failed | ⟨_, -, failed⟩
          · cases failed
          · rcases Outcome.bind_eq_error_iff.mp failed with failed | ⟨_, -, failed⟩
            · exact ih (by omega) failed
            · cases failed

theorem unencodable_of_compile {cursor : Int} (start : 1 ≤ cursor) {token : Token}
    {failure : Failure} (failed : token.compile cursor = .error failure) :
    failure.IsUnencodable := by
  cases token with
  | heading depth content | code content => exact unencodable_of_inserting start failed
  | paragraph content =>
      -- the insertion is checked before the text is counted
      rw [compile, inserting_eq_ok start] at failed
      rcases Outcome.bind_eq_error_iff.mp failed with failed | ⟨_, -, failed⟩
      · cases failed
      · rcases Outcome.bind_eq_error_iff.mp failed with unmeasured | ⟨length, -, failed⟩
        · exact Text.unencodable_of_documentLength unmeasured
        · cases failed
  | list ordered items => exact unencodable_of_compileItems start failed
  | space | unknown _ | foreign _ => cases failed

/-- Nothing but a surrogate stops the compilation of tokens. -/
theorem unencodable_of_compileAll {cursor : Int} (start : 1 ≤ cursor) {tokens : List Token}
    {failure : Failure} (failed : compileAll cursor tokens = .error failure) :
    failure.IsUnencodable := by
  induction tokens generalizing cursor with
  | nil => cases failed
  | cons token tokens ih =>
      rcases Outcome.bind_eq_error_iff.mp failed with failed | ⟨first, compiled, failed⟩
      · exact unencodable_of_compile start failed
      · rcases Outcome.bind_eq_error_iff.mp failed with failed | ⟨_, -, failed⟩
        · -- the cursor only moves on
          have placed := compile_eq_place start (encodable_of_compile compiled)
          rw [compiled, Except.ok.injEq] at placed
          have later : 1 ≤ cursor + (token.text.units : Int) := by omega
          exact ih (placed ▸ later) failed
        · cases failed

end Token

/-! ## (2) Documents -/

namespace Compilation

/-- Nothing but a surrogate stops the compilation of a document. -/
theorem unencodable_of_ofTokens {source : Text} {tokens : List Token} {failure : Failure}
    (failed : ofTokens source tokens = .error failure) : failure.IsUnencodable := by
  rcases Outcome.bind_eq_error_iff.mp failed with failed | ⟨placed, -, failed⟩
  · exact Token.unencodable_of_compileAll (Int.le_refl 1) failed
  · dsimp only at failed
    split at failed
    · rcases Outcome.bind_eq_error_iff.mp failed with unmeasured | ⟨length, -, failed⟩
      · exact Text.unencodable_of_documentLength unmeasured
      · cases failed
    · cases failed

/-- Tokens with a heading among them need no fallback: they are compiled exactly if they have no
surrogates. -/
theorem exists_ofTokens_iff_of_heading (source : Text) {tokens : List Token} {depth : Nat}
    {content : Text} (member : .heading depth content ∈ tokens) :
    (∃ compilation, ofTokens source tokens = .ok compilation) ↔
      ∀ token ∈ tokens, token.Encodable := by
  constructor
  · rintro ⟨compilation, compiled⟩
    exact encodable_of_ofTokens compiled
  · intro encodable
    have shown : ¬ (tokens.flatMap Token.entries).isEmpty = true := by
      rw [List.isEmpty_iff, List.flatMap_eq_nil_iff]
      intro empty
      cases empty _ member
    have start : (1 : Int) ≤ startIndex := Int.le_refl 1
    rw [ofTokens, Token.compileAll_eq_place start encodable]
    simp only [bind, Except.bind, pure, Except.pure, isEmpty_place]
    rw [if_neg shown]
    exact ⟨_, rfl⟩

end Compilation

/-! ## (3) Tokens of markdown -/

namespace Token

variable {P : Nat → Prop}

/-- The texts of a block's token have no signs but those of the block, line feeds and spaces. -/
theorem signs_contents_ofBlock (labels : List Text) (newline : P Sign.newline)
    (space : P Sign.space) {block : Block} (all : block.All P) :
    Signs P (ofBlock labels block).contents := by
  have visible {text : Text} (signs : ∀ sign ∈ text, P sign) :
      ∀ sign ∈ Inline.visible labels text, P sign :=
    Inline.forall_mem_visible labels newline space signs
  have single {text : Text} (signs : ∀ sign ∈ text, P sign) : Signs P [text] :=
    signs_cons.mpr ⟨signs, signs_nil⟩
  cases block with
  | paragraph lines => exact single (visible (signs_unlines newline all))
  | heading depth content => exact single (visible (all content List.mem_cons_self))
  | code content => exact single (all content List.mem_cons_self)
  | list ordered items =>
      refine List.forall_mem_map.mpr fun item member => ?_
      refine signs_unlines newline (List.forall_mem_map.mpr fun text htext => visible ?_)
      exact all text (List.mem_flatMap.mpr ⟨item, member, List.mem_append_left _ htext⟩)
  | thematicBreak | blank | html | quote _ => exact signs_nil

/-- The texts of the tokens of a source have no signs but those of the source, line feeds and
spaces. -/
theorem signs_contents_ofMarkdown (newline : P Sign.newline) (space : P Sign.space) {source : Text}
    (signs : ∀ sign ∈ source, P sign) :
    ∀ token ∈ ofMarkdown source, Signs P token.contents := by
  intro token member
  rw [ofMarkdown] at member
  split at member
  · cases member
  · obtain ⟨block, hblock, rfl⟩ := List.mem_map.mp member
    have all := (Block.all_ofText newline space signs).1 block hblock
    exact signs_contents_ofBlock _ newline space all

/-- A text without surrogates has tokens without any. -/
theorem encodable_ofMarkdown {source : Text} (plain : source.hasSurrogate = false) :
    ∀ token ∈ ofMarkdown source, token.Encodable := by
  intro token member content shown
  exact Text.hasSurrogate_eq_false_iff.mpr <|
    signs_contents_ofMarkdown (by decide) (by decide) (Text.hasSurrogate_eq_false_iff.mp plain)
      token member content shown

/-! ## (4) Reading -/

/-- Every destination in a text has an address, so none has a surrogate. -/
def Addressed (source : Text) : Prop := ∀ found ∈ destinations source, found.hasSurrogate = false

instance (source : Text) : Decidable (Addressed source) :=
  inferInstanceAs (Decidable (∀ found ∈ destinations source, found.hasSurrogate = false))

/-- The destinations in a text have no signs but those of the text, line feeds and spaces. -/
theorem signs_destinations (newline : P Sign.newline) (space : P Sign.space) {source : Text}
    (signs : ∀ sign ∈ source, P sign) : Signs P (destinations source) := by
  obtain ⟨blocks, defined⟩ := Block.all_ofText newline space signs
  refine List.forall_mem_append.mpr ⟨?_, ?_⟩
  · exact defined.of_subset (List.map_subset _ (Definition.counted_subset _))
  · intro found member
    obtain ⟨text, htext, hfound⟩ := List.mem_flatMap.mp member
    obtain ⟨block, hblock, hsource⟩ := List.mem_flatMap.mp htext
    have own := (blocks block hblock).sources newline text hsource
    exact Inline.signs_destinations _ newline space own found hfound

/-- In a text without surrogates every destination has an address. -/
theorem addressed_of_plain {source : Text} (plain : source.hasSurrogate = false) :
    Addressed source := fun found member =>
  Text.hasSurrogate_eq_false_iff.mpr <|
    signs_destinations (by decide) (by decide) (Text.hasSurrogate_eq_false_iff.mp plain)
      found member

/-- In a text without definitions, what has no marks has no destinations. -/
theorem destinations_eq_nil {source : Text} {blocks : List Block}
    (read : Block.ofText source = (blocks, []))
    (unmarked : ∀ block ∈ blocks, Signs (Inline.isMarkup · = false) block.sources) :
    destinations source = [] := by
  rw [destinations, read]
  refine List.flatMap_eq_nil_iff.mpr fun text member => ?_
  obtain ⟨block, hblock, htext⟩ := List.mem_flatMap.mp member
  exact Inline.destinations_eq_nil _ (unmarked block hblock text htext)

/-- **A text is read exactly if all its destinations have addresses**, whatever else is in it. -/
theorem read_eq_ok_iff {source : Text} {tokens : List Token} :
    read source = .ok tokens ↔ Addressed source ∧ tokens = ofMarkdown source := by
  have found : Addressed source ↔
      ∃ addresses, (destinations source).mapM Link.bytes = .ok addresses := by
    simp only [Addressed, Outcome.exists_mapM_iff, Link.exists_bytes_iff]
  rw [found, read, Outcome.bind_eq_ok_iff]
  simp only [Outcome.mapError_eq_ok_iff]
  constructor
  · rintro ⟨addresses, all, shown⟩
    exact ⟨⟨addresses, all⟩, (Except.ok.inj shown).symm⟩
  · rintro ⟨⟨addresses, all⟩, rfl⟩
    exact ⟨addresses, all, rfl⟩

/-- A text without destinations is read. -/
theorem read_of_destinations_eq_nil {source : Text} (none : destinations source = []) :
    read source = .ok (ofMarkdown source) :=
  read_eq_ok_iff.mpr ⟨fun _ member => absurd (none ▸ member) List.not_mem_nil, rfl⟩

/-- Nothing but a link without address stops the reading. -/
theorem addressless_of_read {source : Text} {failure : Failure}
    (failed : read source = .error failure) : failure.IsAddressless := by
  rcases Outcome.bind_eq_error_iff.mp failed with failed | ⟨_, -, failed⟩
  · obtain ⟨fault, stopped, rfl⟩ := Outcome.mapError_eq_error_iff.mp failed
    obtain ⟨found, -, stopped⟩ := Outcome.exists_of_mapM_error stopped
    refine ⟨fault, rfl, ?_⟩
    rw [Link.bytes, Text.utf8] at stopped
    split at stopped
    · cases stopped
    · cases stopped
      rfl
  · cases failed

end Token

namespace Compilation

/-- A text is compiled exactly if it can be read and its tokens can be compiled. -/
theorem ofMarkdown_eq_ok_iff {source : Text} {compilation : Compilation} :
    ofMarkdown source = .ok compilation ↔
      Token.Addressed source ∧ ofTokens source (Token.ofMarkdown source) = .ok compilation := by
  rw [ofMarkdown, Outcome.bind_eq_ok_iff]
  constructor
  · rintro ⟨tokens, read, compiled⟩
    obtain ⟨addressed, rfl⟩ := Token.read_eq_ok_iff.mp read
    exact ⟨addressed, compiled⟩
  · rintro ⟨addressed, compiled⟩
    exact ⟨_, Token.read_eq_ok_iff.mpr ⟨addressed, rfl⟩, compiled⟩

/-- If all destinations have addresses, what matters is what the tokens are compiled to. -/
theorem ofMarkdown_of_addressed {source : Text} (addressed : Token.Addressed source) :
    ofMarkdown source = ofTokens source (Token.ofMarkdown source) := by
  rw [ofMarkdown, Token.read_eq_ok_iff.mpr ⟨addressed, rfl⟩]
  rfl

/-- Nothing but a surrogate stops the work on a text, be it in a link or in a token. -/
theorem unencodable_of_ofMarkdown {source : Text} {failure : Failure}
    (failed : ofMarkdown source = .error failure) :
    failure.IsAddressless ∨ failure.IsUnencodable := by
  rcases Outcome.bind_eq_error_iff.mp failed with unread | ⟨tokens, -, failed⟩
  · exact .inl (Token.addressless_of_read unread)
  · exact .inr (unencodable_of_ofTokens failed)

end Compilation

end Coursework
