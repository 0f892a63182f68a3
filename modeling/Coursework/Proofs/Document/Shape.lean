import Coursework.Proofs.Document.Contiguity

/-! # The shape of a compiled document

A document of headings and paragraphs alone has a simple shape: every heading gets a named style,
no range gets bullets or a font, and each paragraph is an insertion without any style.

* **`Operation.namedStyle?`**, **`Operation.isDecorated`** and **`Operation.bodies`** read the shape
  off the operations.
* **`Page.namedStyles_place`** and **`Page.length_bodies_place`** are the shape of lines that are
  put behind each other.
* **`Compilation.ofTokens_recognised`**: tokens with a form are compiled without diagnostics. -/

namespace Coursework

open Page

/-! ## (1) Reading operations -/

namespace Operation

/-- The named style that an operation gives to paragraphs. -/
def namedStyle? : Operation → Option Text
  | setParagraphStyle _ _ styleName => some styleName
  | insertText _ _ | setListBullets _ _ _ | setTextStyle _ _ _ _ => none

/-- Whether an operation gives bullets or a font. -/
def isDecorated : Operation → Bool
  | setListBullets _ _ _ | setTextStyle _ _ _ _ => true
  | insertText _ _ | setParagraphStyle _ _ _ => false

/-- The position from which an operation gives a named style. -/
def styledFrom? : Operation → Option Int
  | setParagraphStyle first _ _ => some first
  | insertText _ _ | setListBullets _ _ _ | setTextStyle _ _ _ _ => none

/-- Whether an operation inserts a text at none of the given positions. -/
def insertsApart (styled : List Int) : Operation → Bool
  | insertText index _ => !styled.contains index
  | setParagraphStyle _ _ _ | setListBullets _ _ _ | setTextStyle _ _ _ _ => false

/-- The insertions of texts that get no named style. -/
def bodies (operations : List Operation) : List Operation :=
  operations.filter (insertsApart (operations.filterMap styledFrom?))

end Operation

/-! ## (2) Lines behind each other -/

namespace Page

/-- Whether a line is plain or the line of a heading. -/
def Entry.isUndecorated (entry : Entry) : Bool :=
  match entry.style? with
  | none | some (.paragraph _) => true
  | some (.bullets _) | some (.font _ _) => false

/-- The named style of a line. -/
def Entry.namedStyle? (entry : Entry) : Option Text :=
  match entry.style? with
  | some (.paragraph name) => some name
  | none | some (.bullets _) | some (.font _ _) => none

/-- The named styles of lines are those of their operations. -/
theorem namedStyles_place (cursor : Int) (entries : List Entry) :
    (place cursor entries).filterMap Operation.namedStyle? =
      entries.filterMap Entry.namedStyle? := by
  induction entries generalizing cursor with
  | nil => rfl
  | cons entry entries ih =>
      obtain ⟨style?, content⟩ := entry
      rw [place_cons, List.filterMap_append, ih, List.filterMap_cons]
      rcases style? with _ | style
      · rfl
      · cases style <;> rfl

/-- Lines without bullets and fonts have no operations that give any. -/
theorem isDecorated_place {entries : List Entry}
    (undecorated : ∀ entry ∈ entries, entry.isUndecorated = true) {cursor : Int}
    {operation : Operation} (member : operation ∈ place cursor entries) :
    operation.isDecorated = false := by
  induction entries generalizing cursor with
  | nil => cases member
  | cons entry entries ih =>
      obtain ⟨own, others⟩ := List.forall_mem_cons.mp undecorated
      obtain ⟨style?, content⟩ := entry
      rw [place_cons, List.mem_append, Entry.operations, List.mem_cons] at member
      rcases member with (rfl | member) | member
      · rfl
      · obtain ⟨style, hstyle, rfl⟩ := List.mem_map.mp member
        obtain rfl := Option.mem_toList.mp hstyle
        cases style with
        | paragraph name => rfl
        | bullets _ | font _ _ => cases own
      · exact ih others member

/-- The styles of lines begin at their own position or behind it. -/
theorem le_of_styledFrom_place {cursor first : Int} {entries : List Entry}
    (member : first ∈ (place cursor entries).filterMap Operation.styledFrom?) : cursor ≤ first := by
  induction entries generalizing cursor with
  | nil => cases member
  | cons entry entries ih =>
      obtain ⟨style?, content⟩ := entry
      rw [place_cons, List.filterMap_append, List.mem_append] at member
      rcases member with member | member
      · rcases style? with _ | style
        · cases member
        · cases style with
          | paragraph name => exact Int.le_of_eq (List.mem_singleton.mp member).symm
          | bullets _ | font _ _ => cases member
      · have hrest : cursor + (content.units : Int) ≤ first := ih member
        omega

/-- Among lines, those without style are the insertions apart from the positions of styles, also
if there are further styles before them. -/
theorem length_insertsApart_place {entries : List Entry}
    (undecorated : ∀ entry ∈ entries, entry.isUndecorated = true)
    (filled : ∀ entry ∈ entries, 1 ≤ entry.content.units) {cursor : Int} {earlier : List Int}
    (before : ∀ first ∈ earlier, first < cursor) :
    ((place cursor entries).filter (Operation.insertsApart
      (earlier ++ (place cursor entries).filterMap Operation.styledFrom?))).length =
        entries.countP (·.style?.isNone) := by
  induction entries generalizing cursor earlier with
  | nil => rfl
  | cons entry entries ih =>
      obtain ⟨own, others⟩ := List.forall_mem_cons.mp undecorated
      obtain ⟨hfilled, hothers⟩ := List.forall_mem_cons.mp filled
      obtain ⟨style?, content⟩ := entry
      have hunits : 1 ≤ (content.units : Int) := by exact_mod_cast hfilled
      have absent : cursor ∉ earlier := fun h => Int.lt_irrefl _ (before cursor h)
      -- the styles of later lines begin behind the line
      have behind : cursor ∉ (place (cursor + content.units) entries).filterMap
          Operation.styledFrom? := by
        intro h
        have hle := le_of_styledFrom_place h
        omega
      rcases style? with _ | style
      -- a line without a style is counted, as no style begins where it stands
      · have later : ∀ first ∈ earlier, first < cursor + (content.units : Int) := by
          intro first h
          have hfirst := before first h
          omega
        have rest := ih others hothers later
        simp only [place_cons, Entry.operations, Option.toList_none, List.map_nil,
          List.singleton_append, List.filterMap_cons, Operation.styledFrom?]
        rw [List.filter_cons_of_pos, List.length_cons, rest, List.countP_cons_of_pos rfl]
        simp [Operation.insertsApart, absent, behind]
      -- the style of a line begins where it stands, so the line is not counted
      · cases style with
        | bullets _ | font _ _ => cases own
        | paragraph name =>
            have later : ∀ first ∈ earlier ++ [cursor], first < cursor + (content.units : Int) := by
              intro first h
              rcases List.mem_append.mp h with h | h
              · have hfirst := before first h
                omega
              · rw [List.mem_singleton.mp h]
                omega
            have rest := ih others hothers later
            simp only [place_cons, Entry.operations, Option.toList_some, List.map_cons,
              List.map_nil, List.cons_append, List.nil_append, List.filterMap_cons,
              Style.operation, Operation.styledFrom?]
            rw [List.filter_cons_of_neg, List.filter_cons_of_neg, List.append_cons, rest,
              List.countP_cons_of_neg]
            · simp
            · simp [Operation.insertsApart]
            · simp [Operation.insertsApart]

/-- The insertions of texts without a named style are the lines without one. -/
theorem length_bodies_place {entries : List Entry}
    (undecorated : ∀ entry ∈ entries, entry.isUndecorated = true)
    (filled : ∀ entry ∈ entries, 1 ≤ entry.content.units) (cursor : Int) :
    (Operation.bodies (place cursor entries)).length = entries.countP (·.style?.isNone) :=
  length_insertsApart_place undecorated filled fun _ h => absurd h List.not_mem_nil

end Page

/-! ## (3) Tokens with a form -/

/-- Tokens with a form have no diagnostics. -/
theorem Token.diagnose_eq_nil {tokens : List Token}
    (recognised : ∀ token ∈ tokens, token.unrecognised? = none) (cursor : Int) :
    diagnose cursor tokens = [] := by
  induction tokens generalizing cursor with
  | nil => rfl
  | cons token tokens ih =>
      obtain ⟨own, others⟩ := List.forall_mem_cons.mp recognised
      rw [diagnose, own]
      cases token.compile cursor with
      | error failure => rfl
      | ok placed => exact ih others placed.cursor

/-- Tokens with a form that show something are compiled to their lines, without diagnostics. -/
theorem Compilation.ofTokens_recognised {tokens : List Token}
    (recognised : ∀ token ∈ tokens, token.unrecognised? = none)
    (encodable : ∀ token ∈ tokens, token.Encodable)
    (shown : tokens.flatMap Token.entries ≠ []) (source : Text) :
    ofTokens source tokens = .ok ⟨place startIndex (tokens.flatMap Token.entries),
      startIndex + Text.units (tokens.flatMap Token.text), []⟩ := by
  have start : (1 : Int) ≤ startIndex := Int.le_refl 1
  have filled : ¬ (tokens.flatMap Token.entries).isEmpty = true := by
    rwa [List.isEmpty_iff]
  rw [ofTokens, Token.compileAll_eq_place start encodable, Token.diagnose_eq_nil recognised]
  simp only [bind, Except.bind, pure, Except.pure, isEmpty_place]
  rw [if_neg filled]

end Coursework
