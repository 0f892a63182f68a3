import Coursework.Markdown.Inline
import Coursework.Proofs.Text.Trimming
import Mathlib.Data.List.Chain

/-! # Texts with escapes alone

In a text without marks of emphasis, code, links and HTML, only escapes and line ends mean more than
themselves. If moreover no white space stands beside a line end, the visible text is the text
without the backslashes of its escapes.

* **`Inline.Quiet`** holds of such texts.
* **`Inline.visible_eq_unescape`** is the main statement. -/

namespace Coursework.Markdown

/-! ## (1) Escapes -/

theorem unescape_escape {next : Nat} (mark : Sign.isPunctuation next = true) (text : Text) :
    unescape (Sign.backslash :: next :: text) = next :: unescape text := by
  rw [unescape, Link.isEscape, mark]
  rfl

/-- Any other sign is kept. -/
theorem unescape_cons {sign : Nat} (other : sign ≠ Sign.backslash) (text : Text) :
    unescape (sign :: text) = sign :: unescape text := by
  cases text with
  | nil => rfl
  | cons next text =>
      rw [unescape, Link.isEscape, beq_eq_false_iff_ne.mpr other]
      rfl

theorem unescape_append_of_not_mem {first : Text} (absent : Sign.backslash ∉ first)
    (second : Text) : unescape (first ++ second) = first ++ unescape second := by
  induction first with
  | nil => rfl
  | cons sign first ih =>
      rw [List.mem_cons, not_or] at absent
      rw [List.cons_append, unescape_cons (Ne.symm absent.1), ih absent.2, List.cons_append]

theorem unescape_of_not_mem {text : Text} (absent : Sign.backslash ∉ text) :
    unescape text = text := by
  have h := unescape_append_of_not_mem absent []
  rwa [List.append_nil, unescape, List.append_nil] at h

/-- A text that does not end with a backslash ends with no part of an escape. -/
theorem unescape_append {first : Text} (closed : first.getLast? ≠ some Sign.backslash)
    (second : Text) : unescape (first ++ second) = unescape first ++ unescape second := by
  induction first using unescape.induct with
  | case1 => rfl
  | case2 sign =>
      have other : sign ≠ Sign.backslash := fun h => closed (congrArg _ h)
      exact unescape_cons other second
  | case3 sign next first escape ih =>
      have behind : first.getLast? ≠ some Sign.backslash := by
        intro h
        apply closed
        rw [List.getLast?_cons, List.getLast?_cons, h]
        rfl
      rw [List.cons_append, List.cons_append, unescape, if_pos escape, unescape, if_pos escape,
        ih behind, List.cons_append]
  | case4 sign next first plain ih =>
      rw [List.getLast?_cons_cons] at closed
      rw [List.cons_append, List.cons_append, unescape, if_neg plain, unescape, if_neg plain,
        ← List.cons_append, ih closed, List.cons_append]

/-- No sign is added. -/
theorem length_unescape_le (text : Text) : (unescape text).length ≤ text.length := by
  induction text using unescape.induct with
  | case1 => exact Nat.le_refl _
  | case2 sign => exact Nat.le_refl _
  | case3 sign next text escape ih =>
      rw [unescape, if_pos escape, List.length_cons, List.length_cons, List.length_cons]
      omega
  | case4 sign next text plain ih =>
      rw [unescape, if_neg plain, List.length_cons, List.length_cons]
      omega

/-! ## (2) Quiet texts -/

namespace Inline

/-- Signs that begin emphasis, code, a link or HTML. -/
def isMarkup (sign : Nat) : Bool :=
  sign == Sign.backtick || sign == Sign.asterisk || sign == Sign.underscore ||
    sign == Sign.leftBracket || sign == Sign.lessThan

/-- What may follow a sign: a line feed stands beside no white space, and a backslash before
punctuation. -/
structure Follows (sign next : Nat) : Prop where
  /-- No white space begins a line. -/
  newline : sign = Sign.newline → Sign.isBlank next = false
  /-- No space ends a line. -/
  space : sign = Sign.space → next ≠ Sign.newline
  /-- Every backslash is one of an escape. -/
  backslash : sign = Sign.backslash → Sign.isPunctuation next = true

/-- A text without marks but escapes, with no white space beside its line ends. -/
structure Quiet (text : Text) : Prop where
  /-- There are no marks. -/
  unmarked : ∀ sign ∈ text, isMarkup sign = false
  /-- Every sign may follow the one before it. -/
  chain : text.IsChain Follows

variable {sign : Nat} {text : Text}

theorem Quiet.of_isInfix {part : Text} (quiet : Quiet text) (h : part <:+: text) :
    Quiet part where
  unmarked sign hsign := quiet.unmarked sign (h.subset hsign)
  chain := by
    obtain ⟨before, behind, rfl⟩ := h
    exact quiet.chain.left_of_append.right_of_append

/-- Two quiet texts make one if the second may follow the first. -/
theorem Quiet.append {first second : Text} (hfirst : Quiet first) (hsecond : Quiet second)
    (follows : ∀ last, first.getLast? = some last → ∀ next, second.head? = some next →
      Follows last next) : Quiet (first ++ second) where
  unmarked sign h := by
    rcases List.mem_append.mp h with h | h
    · exact hfirst.unmarked sign h
    · exact hsecond.unmarked sign h
  chain := hfirst.chain.append hsecond.chain follows

/-! ## (3) Reading -/

/-- Texts that have been read. -/
def State.Plain (state : State) : Prop := ∀ piece ∈ state.pieces, ∃ content levels,
  piece = .text content levels

/-- What has been read so far. -/
def State.content (state : State) : Text := state.pieces.reverse.flatMap Piece.content

theorem State.Plain.add {state : State} (plain : state.Plain) (content : Text) (last : Nat) :
    (state.add content last).Plain :=
  List.forall_mem_cons.mpr ⟨⟨content, 0, rfl⟩, plain⟩

theorem State.content_add (state : State) (content : Text) (last : Nat) :
    (state.add content last).content = state.content ++ content := by
  rw [State.content, State.add, List.reverse_cons, List.flatMap_append]
  simp [State.content, Piece.content]

/-- Nothing but texts is flattened to these texts. -/
theorem content_flatten {pieces : List Piece}
    (plain : ∀ piece ∈ pieces, ∃ content levels, piece = .text content levels) :
    (Piece.flatten pieces).content = pieces.flatMap Piece.content := by
  have resolved (before : List Piece) :
      Piece.resolveFrom before pieces = pieces.reverse ++ before := by
    induction pieces generalizing before with
    | nil => rfl
    | cons piece pieces ih =>
        obtain ⟨⟨content, levels, rfl⟩, others⟩ := List.forall_mem_cons.mp plain
        rw [Piece.resolveFrom, ih others, List.reverse_cons, List.append_assoc]
        · rfl
        · exact fun value => Piece.noConfusion
  rw [Piece.flatten, Piece.resolve, resolved, List.append_nil, List.reverse_reverse]
  rfl

theorem openBracket?_of_plain {pieces : List Piece}
    (plain : ∀ piece ∈ pieces, ∃ content levels, piece = .text content levels) :
    openBracket? pieces = none := by
  induction pieces with
  | nil => rfl
  | cons piece pieces ih =>
      obtain ⟨⟨content, levels, rfl⟩, others⟩ := List.forall_mem_cons.mp plain
      rw [openBracket?, ih others]
      · rfl
      · exact fun image active behind => Piece.noConfusion

/-- A part of a text has been read as what it shows. -/
structure Reads (state : State) (source : Text) (result : State × Text) : Prop where
  /-- All that has been read are texts. -/
  plain : result.1.Plain
  /-- The end of the text is left. -/
  rest : result.2 <:+ source
  /-- Something has been read. -/
  shorter : result.2.length < source.length
  /-- Nothing is lost. -/
  content : result.1.content ++ unescape result.2 = state.content ++ unescape source

variable {state : State} {rest : Text}

theorem reads_add (plain : state.Plain) {source content : Text} (last : Nat)
    (hrest : rest <:+ source) (shorter : rest.length < source.length)
    (shown : unescape source = content ++ unescape rest) :
    Reads state source (state.add content last, rest) where
  plain := plain.add content last
  rest := hrest
  shorter := shorter
  content := by
    rw [State.content_add, shown, List.append_assoc]

/-- A first part without backslashes is read as it is. -/
theorem reads_part (plain : state.Plain) {part : Text} (last : Nat) (shown : part ≠ [])
    (absent : Sign.backslash ∉ part) :
    Reads state (part ++ rest) (state.add part last, rest) := by
  refine reads_add plain last (List.suffix_append _ _) ?_ (unescape_append_of_not_mem absent rest)
  have hlength := List.length_pos_of_ne_nil shown
  rw [List.length_append]
  omega

theorem not_mem_singleton {other : Nat} (h : sign ≠ other) : other ∉ [sign] :=
  fun member => h (List.mem_singleton.mp member).symm

/-- A line feed is read alone, as no white space follows. -/
theorem reads_newLine (plain : state.Plain)
    (first : ∀ next, rest.head? = some next → Sign.isBlank next = false) :
    Reads state (Sign.newline :: rest) (newLine state rest) := by
  have hrest : rest.dropWhile Sign.isBlank = rest := by
    cases rest with
    | nil => rfl
    | cons next rest => rw [List.dropWhile_cons, first next rfl]; rfl
  rw [newLine, hrest]
  exact reads_part plain Sign.newline (List.cons_ne_nil _ _) (not_mem_singleton (by decide))

/-- No line feed follows a run of spaces. -/
theorem head?_dropWhile_space (quiet : Quiet (Sign.space :: rest)) :
    (rest.dropWhile (· == Sign.space)).head? ≠ some Sign.newline := by
  induction rest with
  | nil => exact fun h => by cases h
  | cons next rest ih =>
      by_cases hspace : next = Sign.space
      -- a space more does not matter
      · subst hspace
        rw [List.dropWhile_cons_of_pos rfl]
        exact ih (quiet.of_isInfix (List.suffix_cons _ _).isInfix)
      · rw [List.dropWhile_cons_of_neg (by simpa using hspace), List.head?_cons]
        intro h
        exact (quiet.chain.rel_head? rfl).space rfl (Option.some.inj h)

/-- A closing bracket is read as it is, as there is none that it closes. -/
theorem reads_closeBracket (labels : List Text) (plain : state.Plain) :
    Reads state (Sign.rightBracket :: rest) (closeBracket labels state rest) := by
  -- no bracket is open
  have hclose : closeBracket labels state rest =
      (state.add [Sign.rightBracket] Sign.rightBracket, rest) := by
    rw [closeBracket]
    simp only [openBracket?_of_plain plain]
    rfl
  rw [hclose]
  exact reads_part plain Sign.rightBracket (List.cons_ne_nil _ _) (not_mem_singleton (by decide))

/-- Every step reads a part of a quiet text as what it shows. -/
theorem reads_step (labels : List Text) (plain : state.Plain) (quiet : Quiet (sign :: rest)) :
    Reads state (sign :: rest) (step labels state sign rest) := by
  have follows : ∀ next, rest.head? = some next → Follows sign next := fun next h =>
    quiet.chain.rel_head? h
  have unmarked := quiet.unmarked sign List.mem_cons_self
  simp only [isMarkup, Bool.or_eq_false_iff, beq_eq_false_iff_ne] at unmarked
  obtain ⟨⟨⟨⟨hbacktick, hasterisk⟩, hunderscore⟩, hbracket⟩, hangle⟩ := unmarked
  rw [step.eq_def]
  split
  · -- a backslash
    rename_i hsign
    subst hsign
    split
    -- a backslash stands before no line feed, as that is no punctuation
    · cases (follows Sign.newline rfl).backslash rfl
    · rename_i next after _
      have mark := (follows next rfl).backslash rfl
      rw [if_pos mark]
      refine reads_add plain next ((List.suffix_cons _ _).trans (List.suffix_cons _ _)) ?_
        (unescape_escape mark after)
      rw [List.length_cons, List.length_cons]
      omega
    · exact reads_add plain Sign.backslash (List.suffix_cons _ _) (Nat.lt_succ_self _) rfl
  rename_i hbackslash
  have single : Reads state (sign :: rest) (state.add [sign] sign, rest) :=
    reads_part plain sign (List.cons_ne_nil _ _) (not_mem_singleton hbackslash)
  split
  -- a line feed
  · rename_i hsign
    subst hsign
    exact reads_newLine plain fun next h => (follows next h).newline rfl
  split
  · -- a run of spaces
    rename_i hsign
    subst hsign
    split
    · rename_i after hafter
      exact absurd (congrArg List.head? hafter) (head?_dropWhile_space quiet)
    · have absent : Sign.backslash ∉ Sign.space :: rest.takeWhile (· == Sign.space) := by
        rw [List.mem_cons, not_or]
        refine ⟨by decide, fun h => ?_⟩
        cases List.mem_takeWhile_imp h
      have part := @reads_part state (rest.dropWhile (· == Sign.space)) plain _ Sign.space
        (List.cons_ne_nil _ _) absent
      rwa [List.cons_append, List.takeWhile_append_dropWhile] at part
  -- asterisks, underscores and the signs that begin code, links and HTML are absent
  have hemphasis : ¬ (sign = Sign.asterisk || sign = Sign.underscore) = true := by
    simp [hasterisk, hunderscore]
  rw [if_neg hemphasis]
  split
  -- an exclamation mark begins no image without an opening bracket
  · split
    · cases quiet.unmarked Sign.leftBracket (by simp)
    · exact single
  split
  · rename_i hsign
    subst hsign
    exact reads_closeBracket labels plain
  -- all other signs are read up to the next one that may mean something
  have absent : Sign.backslash ∉ sign :: rest.takeWhile (! isSpecial ·) := by
    rw [List.mem_cons, not_or]
    refine ⟨Ne.symm hbackslash, fun h => ?_⟩
    cases List.mem_takeWhile_imp h
  have part := @reads_part state (rest.drop (rest.takeWhile (! isSpecial ·)).length) plain _
    ((rest.takeWhile (! isSpecial ·)).getLast?.getD sign) (List.cons_ne_nil _ _) absent
  have hrest := List.prefix_iff_eq_append.mp (List.takeWhile_prefix (! isSpecial ·) (l := rest))
  rwa [List.cons_append, hrest] at part

/-- All of a quiet text is read as what it shows. -/
theorem content_scan (labels : List Text) (plain : state.Plain) (quiet : Quiet text) {steps : Nat}
    (enough : text.length ≤ steps) :
    (scan labels steps state text).Plain ∧
      (scan labels steps state text).content = state.content ++ unescape text := by
  induction steps generalizing state text with
  | zero =>
      rw [List.length_eq_zero_iff.mp (Nat.le_zero.mp enough), unescape, List.append_nil]
      exact ⟨plain, rfl⟩
  | succ steps ih =>
      cases text with
      | nil =>
          rw [scan, unescape, List.append_nil]
          exact ⟨plain, rfl⟩
      | cons sign rest =>
          -- a step leaves fewer signs, so that the steps suffice for them
          have reads := reads_step labels plain quiet
          have shorter := reads.shorter
          rw [List.length_cons] at enough shorter
          obtain ⟨hplain, hcontent⟩ :=
            ih reads.plain (quiet.of_isInfix reads.rest.isInfix) (by omega)
          exact ⟨hplain, hcontent.trans reads.content⟩

/-- **A quiet text shows itself** without the backslashes of its escapes. -/
theorem visible_eq_unescape (labels : List Text) {source : Text} (quiet : Quiet source)
    (trimmed : source.Trimmed) : visible labels source = unescape source := by
  have dropped {sign : Nat} (h : Sign.isBlank sign = false) : isTrimmed sign = false := by
    refine Bool.eq_false_iff.mpr fun htrimmed => ?_
    simp only [isTrimmed, Bool.or_eq_true, beq_iff_eq] at htrimmed
    rcases htrimmed with (((rfl | rfl) | rfl) | rfl) | rfl <;> cases h
  have hsource : Text.trim isTrimmed source = source :=
    Text.trim_eq_self (fun sign h => dropped (trimmed.first sign h))
      fun sign h => dropped (trimmed.last sign h)
  have start : State.Plain {} := fun piece h => absurd h List.not_mem_nil
  obtain ⟨plain, content⟩ := content_scan labels start quiet (Nat.le_refl source.length)
  rw [visible, hsource]
  refine (content_flatten fun piece h => plain piece (List.mem_reverse.mp h)).trans ?_
  exact content

end Inline

end Coursework.Markdown
