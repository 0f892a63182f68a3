import Coursework.Proofs.Markdown.Unescape
import Coursework.Proofs.Outline.Standing

/-! # Texts that are shown as they are

In a text without backslashes, carriage returns and marks within lines, normalising and reading
undo each other: what is shown are the lines of the text, each one trimmed, with a space for each
run of blank lines.

* **`Outline.Legible`** holds of such texts, **`Outline.tidy`** is what is shown of them.
* **`Outline.Spells`** holds of a source and the text that is shown.
* **`Legible.spells_normalise`** and **`Outline.spells_taskLine`** are the main statements. -/

namespace Coursework.Outline

open Markdown Inline

/-! ## (1) Inert signs -/

/-- The signs that mean nothing within a line. -/
def isInert (sign : Nat) : Bool :=
  !(sign == Sign.backslash || isMarkup sign || sign == Sign.carriageReturn)

/-- A text that is not blank and has inert signs alone. -/
structure Legible (text : Text) : Prop where
  /-- There is something to be seen. -/
  shown : text.isBlank = false
  /-- All signs are inert. -/
  inert : ∀ sign ∈ text, isInert sign = true

instance (text : Text) : Decidable (Legible text) :=
  decidable_of_iff (text.isBlank = false ∧ ∀ sign ∈ text, isInert sign = true)
    ⟨fun h => ⟨h.1, h.2⟩, fun h => ⟨h.shown, h.inert⟩⟩

/-- The lines of a text, each one trimmed, with a space for each run of blank lines. -/
def tidy (text : Text) : Text :=
  Text.joinWith [Sign.newline] ((foldBlankLines text).strip.lines.map Text.strip)

variable {sign : Nat} {text line : Text}

theorem isInert_iff : isInert sign = true ↔
    sign ≠ Sign.backslash ∧ isMarkup sign = false ∧ sign ≠ Sign.carriageReturn := by
  simp [isInert, and_assoc]

/-! ## (2) Quiet texts -/

/-- One line of inert signs is quiet. -/
theorem quiet_of_inert (inert : ∀ sign ∈ text, isInert sign = true)
    (absent : Sign.newline ∉ text) : Quiet text where
  unmarked sign h := (isInert_iff.mp (inert sign h)).2.1
  chain := by
    induction text with
    | nil => exact .nil
    | cons sign text ih =>
        obtain ⟨hsign, htext⟩ := List.forall_mem_cons.mp inert
        rw [List.mem_cons, not_or] at absent
        refine (ih htext absent.2).cons fun next hnext => ⟨?_, ?_, ?_⟩
        · rintro rfl
          exact absurd rfl absent.1
        · rintro - rfl
          exact absent.2 (List.mem_of_mem_head? hnext)
        · rintro rfl
          cases hsign

/-- So is one line of inert signs behind a backslash, if it begins with punctuation. -/
theorem quiet_escape (inert : ∀ other ∈ sign :: text, isInert other = true)
    (absent : Sign.newline ∉ sign :: text) (mark : Sign.isPunctuation sign = true) :
    Quiet (Sign.backslash :: sign :: text) := by
  have quiet := quiet_of_inert inert absent
  refine ⟨List.forall_mem_cons.mpr ⟨by decide, quiet.unmarked⟩, ?_⟩
  refine quiet.chain.cons fun next hnext => ⟨fun h => ?_, fun h => ?_, fun _ => ?_⟩
  · cases h
  · cases h
  · rwa [← Option.some.inj hnext]

/-- Anything may follow a sign that is neither white space nor a backslash. -/
theorem follows_of_solid {last next : Nat} (solid : Sign.isBlank last = false)
    (other : last ≠ Sign.backslash) : Follows last next where
  newline h := by
    rw [h] at solid
    cases solid
  space h := by
    rw [h] at solid
    cases solid
  backslash h := absurd h other

/-- No white space may follow a line feed, but anything else. -/
theorem follows_of_next {last next : Nat} (solid : Sign.isBlank next = false)
    (other : last ≠ Sign.backslash) : Follows last next where
  newline _ := solid
  space _ h := by
    rw [h] at solid
    cases solid
  backslash h := absurd h other

/-! ## (3) Spelling -/

/-- A source is read as a text. -/
structure Spells (source shown : Text) : Prop where
  /-- There is something to be seen. -/
  shows : source ≠ []
  /-- No white space stands at the ends. -/
  trimmed : source.Trimmed
  /-- There are no marks but escapes. -/
  quiet : Quiet source
  /-- The last sign escapes nothing that follows. -/
  closed : source.getLast? ≠ some Sign.backslash
  /-- Without the backslashes of its escapes the source is the text. -/
  unescape : Markdown.unescape source = shown

variable {source shown : Text}

theorem Spells.visible (spells : Spells source shown) (labels : List Text) :
    visible labels source = shown := by
  rw [visible_eq_unescape labels spells.quiet spells.trimmed, spells.unescape]

/-- Whatever sign ends a source, anything may follow it. -/
theorem Spells.follows (spells : Spells source shown) {last : Nat}
    (h : source.getLast? = some last) (next : Nat) : Follows last next := by
  refine follows_of_solid (spells.trimmed.last last h) ?_
  rintro rfl
  exact spells.closed h

theorem isPunctuation_of_opensBlock (opens : opensBlock sign = true) :
    Sign.isPunctuation sign = true := by
  simp only [opensBlock, Bool.or_eq_true, beq_iff_eq] at opens
  rcases opens with (((((((rfl | rfl) | rfl) | rfl) | rfl) | rfl) | rfl) | rfl) | rfl
  all_goals rfl

theorem Ordered.isPunctuation_mark {digits rest : Text} {mark : Nat}
    (h : Ordered line digits mark rest) : Sign.isPunctuation mark = true := by
  rcases h.closes with rfl | rfl <;> rfl

/-- The backslash of an escaped line of inert signs stands before punctuation. -/
theorem Escaped.quiet {escaped : Text} (h : Escaped line escaped)
    (inert : ∀ sign ∈ line, isInert sign = true) (absent : Sign.newline ∉ line) :
    Quiet escaped := by
  cases h with
  | @ordered digits mark rest ordered =>
      rw [ordered.parts] at inert absent
      rw [List.mem_append, not_or] at absent
      obtain ⟨hdigits, hrest⟩ := List.forall_mem_append.mp inert
      refine (quiet_of_inert hdigits absent.1).append
        (quiet_escape hrest absent.2 ordered.isPunctuation_mark) fun last hlast next hnext => ?_
      obtain rfl := Option.some.inj hnext
      have inertLast := hdigits last (List.mem_of_getLast? hlast)
      exact follows_of_next (by decide) (isInert_iff.mp inertLast).1
  | @opening sign rest h opens =>
      subst h
      exact quiet_escape inert absent (isPunctuation_of_opensBlock opens)
  | plain unordered opensNone => exact quiet_of_inert inert absent

/-- Without it the line is left. -/
theorem Escaped.unescape {escaped : Text} (h : Escaped line escaped)
    (absent : Sign.backslash ∉ line) : unescape escaped = line := by
  cases h with
  | @ordered digits mark rest ordered =>
      rw [ordered.parts, List.mem_append, List.mem_cons, not_or, not_or] at absent
      rw [unescape_append_of_not_mem absent.1, unescape_escape ordered.isPunctuation_mark,
        unescape_of_not_mem absent.2.2, ordered.parts]
  | @opening sign rest h opens =>
      subst h
      rw [List.mem_cons, not_or] at absent
      rw [unescape_escape (isPunctuation_of_opensBlock opens), unescape_of_not_mem absent.2]
  | plain unordered opensNone => exact unescape_of_not_mem absent

theorem not_mem_of_inert (inert : ∀ sign ∈ text, isInert sign = true) : Sign.backslash ∉ text :=
  fun h => by cases inert _ h

/-- An escaped line spells the line without the white space at its ends. -/
theorem spells_escapeLine (shown : Text.isBlank line = false)
    (inert : ∀ sign ∈ line, isInert sign = true) (absent : Sign.newline ∉ line) :
    Spells (escapeLine line) line.strip := by
  have hinert : ∀ sign ∈ line.strip, isInert sign = true :=
    fun sign h => inert sign (Text.mem_of_mem_strip h)
  have habsent : Sign.newline ∉ line.strip := fun h => absent (Text.mem_of_mem_strip h)
  have escaped := escaped_escapeLine line
  refine ⟨fun h => ?_, trimmed_escapeLine line, escaped.quiet hinert habsent, fun h => ?_,
    escaped.unescape (not_mem_of_inert hinert)⟩
  · rw [escapeLine_eq_nil_iff, shown] at h
    cases h
  · rw [escaped.getLast?] at h
    exact not_mem_of_inert hinert (List.mem_of_getLast? h)

/-- Spellings in lines spell the lines. -/
theorem spells_joinWith {sources texts : List Text} (shows : sources ≠ [])
    (spells : List.Forall₂ Spells sources texts) :
    Spells (Text.joinWith [Sign.newline] sources) (Text.joinWith [Sign.newline] texts) := by
  induction spells with
  | nil => exact absurd rfl shows
  | @cons source shown sources texts own others ih =>
      cases others with
      | nil => exact own
      | @cons next nextShown sources texts hnext hothers =>
          have rest := ih (List.cons_ne_nil _ _)
          rw [Text.joinWith_cons_cons, Text.joinWith_cons_cons, List.append_assoc,
            List.append_assoc, List.singleton_append, List.singleton_append]
          -- a line feed stands between two texts that are trimmed
          generalize Text.joinWith [Sign.newline] (next :: sources) = behind at *
          have line : Quiet (Sign.newline :: behind) :=
            ⟨List.forall_mem_cons.mpr ⟨by decide, rest.quiet.unmarked⟩,
              rest.quiet.chain.cons fun other h =>
                follows_of_next (rest.trimmed.first other h) (by decide)⟩
          have hlast : (source ++ Sign.newline :: behind).getLast? = behind.getLast? := by
            rw [List.append_cons, List.getLast?_append, Option.or_of_isSome]
            exact List.getLast?_isSome.mpr rest.shows
          refine ⟨List.append_ne_nil_of_left_ne_nil own.shows _,
            ⟨fun sign h => ?_, fun sign h => ?_⟩,
            own.quiet.append line fun last h next _ => own.follows h next, ?_, ?_⟩
          · rw [List.head?_append_of_ne_nil _ own.shows] at h
            exact own.trimmed.first sign h
          · exact rest.trimmed.last sign (hlast ▸ h)
          · rw [hlast]
            exact rest.closed
          · rw [unescape_append own.closed, own.unescape, unescape_cons (by decide), rest.unescape]

/-! ## (4) Normalised texts -/

namespace Legible

variable (legible : Legible text)

include legible

theorem folded_eq : folded text = (foldBlankLines text).strip := by
  rw [folded, dropReturns_of_not_mem]
  intro h
  cases legible.inert _ h

theorem folded_ne_nil : folded text ≠ [] := by
  rw [legible.folded_eq, Ne, Text.strip_eq_nil_iff, isBlank_foldBlankLines legible.shown]
  exact Bool.false_ne_true

/-- Every line shows something, has inert signs and no line end. -/
theorem of_mem_lines (member : line ∈ (folded text).lines) :
    Text.isBlank line = false ∧ (∀ sign ∈ line, isInert sign = true) ∧ Sign.newline ∉ line := by
  refine ⟨isBlank_of_mem_lines (unbroken_folded text) legible.folded_ne_nil (trimmed_folded text)
    member, fun sign h => ?_, Text.not_mem_of_mem_splitAt member⟩
  have hfolded := Text.mem_of_mem_splitAt member h
  rw [legible.folded_eq] at hfolded
  rcases mem_foldFrom (Text.mem_of_mem_strip hfolded) with h | rfl
  · exact legible.inert sign h
  · decide

/-- **A normalised text spells the text**, trimmed line by line. -/
theorem spells_normalise : Spells (normalise text) (tidy text) := by
  rw [normalise_eq_joinWith, normalLines, tidy, ← legible.folded_eq]
  refine spells_joinWith (mt List.map_eq_nil_iff.mp (Text.lines_ne_nil _)) ?_
  rw [List.forall₂_map_left_iff, List.forall₂_map_right_iff, List.forall₂_same]
  intro line h
  obtain ⟨shown, inert, absent⟩ := legible.of_mem_lines h
  exact spells_escapeLine shown inert absent

/-- A carriage return, an underscore and a bracket are no inert signs. -/
theorem guarded : Guarded text := by
  refine guarded_of_forall fun sign h => ?_
  have hsign := legible.inert sign h
  refine ⟨?_, ?_, ?_⟩ <;> rintro rfl <;> cases hsign

end Legible

/-! ## (5) Tasks -/

theorem isInert_taskOpening {number : Nat} (h : sign ∈ taskOpening number) :
    isInert sign = true := by
  rcases mem_taskOpening h with hdigit | h
  · have every : ∀ value < 10, isInert (48 + value) = true := by decide
    simp only [Sign.isDigit, Bool.and_eq_true, decide_eq_true_eq] at hdigit
    have hsign : sign = 48 + (sign - 48) := by omega
    rw [hsign]
    exact every _ (by omega)
  · have every : ∀ sign ∈ Text.ofString "Task : ", isInert sign = true := by decide
    exact every sign h

/-- A source may stand between one line of inert signs and a quiet text. -/
theorem Spells.between (spells : Spells source shown) {opening behind : Text}
    (inert : ∀ sign ∈ opening, isInert sign = true) (absent : Sign.newline ∉ opening)
    (quiet : Quiet behind) :
    Quiet (opening ++ (source ++ behind)) ∧
      Markdown.unescape (opening ++ (source ++ behind)) =
        opening ++ (shown ++ Markdown.unescape behind) := by
  have hsource : Quiet (source ++ behind) :=
    spells.quiet.append quiet fun last h next _ => spells.follows h next
  refine ⟨(quiet_of_inert inert absent).append hsource fun last hlast next hnext => ?_, ?_⟩
  · rw [List.head?_append_of_ne_nil _ spells.shows] at hnext
    exact follows_of_next (spells.trimmed.first next hnext)
      (isInert_iff.mp (inert last (List.mem_of_getLast? hlast))).1
  · rw [unescape_append_of_not_mem (not_mem_of_inert inert), unescape_append spells.closed,
      spells.unescape]

/-- What is said of a task spells the same of what its texts spell. -/
theorem spells_taskLine (number : Nat) {description weightage first second : Text}
    (hdescription : Spells description first) (hweightage : Spells weightage second) :
    Spells (taskLine number description weightage) (taskLine number first second) := by
  obtain ⟨shows, trimmed⟩ := trimmed_taskLine number description weightage
  have marks : Quiet " marks)" := quiet_of_inert (by decide) (by decide)
  obtain ⟨hquiet, hunescape⟩ := @Spells.between _ _ hweightage " (Weightage: " _ (by decide)
    (by decide) marks
  obtain ⟨quiet, unescape⟩ := hdescription.between
    (fun sign h => @isInert_taskOpening sign number h) (newline_not_mem_taskOpening number) hquiet
  rw [hunescape, ← taskLine_eq] at unescape
  rw [← taskLine_eq] at quiet
  refine ⟨shows, trimmed, quiet, fun h => ?_, unescape.trans ?_⟩
  · obtain ⟨between, hends⟩ := exists_taskLine_eq number description weightage
    rw [hends, List.getLast?_concat] at h
    cases h
  · rw [taskLine_eq, unescape_of_not_mem (by decide)]

end Coursework.Outline
