import Coursework.Proofs.Markdown.Opening
import Coursework.Proofs.Outline.Folding

/-! # Lines that open no block

A line that begins with no sign of markdown and with no mark of an ordered list is text wherever it
stands. An escaped line is of this kind unless it begins with an underscore or a bracket, which
normalising leaves alone.

* **`Outline.Settled`** holds of such lines.
* **`Outline.opensBlock_of_settled`**: they open no block.
* **`Outline.settled_escapeLine`**: most escaped lines are settled. -/

namespace Coursework.Outline

open Markdown

/-! ## (1) Settled lines -/

/-- The signs that a block of markdown may begin with, apart from white space and digits. -/
def beginsMarkup (sign : Nat) : Bool :=
  opensBlock sign || sign == Sign.underscore || sign == Sign.leftBracket

/-- A line begins with something to be seen that begins no block. -/
structure Settled (line : Line) : Prop where
  /-- It begins with no sign of a block. -/
  begins : ∃ sign rest, line = sign :: rest ∧ Sign.isBlank sign = false ∧ beginsMarkup sign = false
  /-- It begins with no mark of an ordered list. -/
  unordered : ∀ digits mark rest, ¬ Ordered line digits mark rest

section Head

variable {sign : Nat} {rest : Line}

theorem ne_of_solid (solid : Sign.isBlank sign = false) : sign ≠ Sign.space ∧ sign ≠ Sign.tab := by
  constructor
  · rintro rfl
    cases solid
  · rintro rfl
    cases solid

theorem afterIndentation?_of_ne (other : sign ≠ Sign.space) (most : Nat) :
    Line.afterIndentation? most (sign :: rest) = some (sign :: rest) := by
  have hspace : (sign == Sign.space) = false := beq_eq_false_iff_ne.mpr other
  rw [Line.afterIndentation?, Line.indentation, Line.unindented, List.takeWhile_cons,
    List.dropWhile_cons, hspace]
  rfl

theorem indentation_of_ne (other : sign ≠ Sign.space) : Line.indentation (sign :: rest) = 0 := by
  rw [Line.indentation, List.takeWhile_cons_of_neg (by simpa using other), List.length_nil]

/-- A line with no sign of a block before it is no fence, heading, underline, thematic break and
quote, and begins no HTML and no definition. -/
theorem unmarked_of_beginsMarkup (solid : Sign.isBlank sign = false)
    (plain : beginsMarkup sign = false) :
    Line.fence? 3 (sign :: rest) = none ∧ Line.isIndented (sign :: rest) = false ∧
      Line.heading? 3 (sign :: rest) = none ∧ Line.underline? (sign :: rest) = none ∧
      Line.isThematicBreak 3 (sign :: rest) = false ∧ Line.quoted? 3 (sign :: rest) = none ∧
      Html.opening? (sign :: rest) = none ∧ Link.opensDefinition (sign :: rest) = false := by
  obtain ⟨hspace, htab⟩ := ne_of_solid solid
  -- each form of a block begins with a sign of its own
  simp only [beginsMarkup, opensBlock, Bool.or_eq_false_iff, beq_eq_false_iff_ne] at plain
  obtain ⟨⟨⟨⟨⟨⟨⟨⟨⟨⟨hhash, hgreater⟩, hasterisk⟩, -⟩, hhyphen⟩, hequals⟩, hbacktick⟩, htilde⟩,
    hless⟩, hunderscore⟩, hbracket⟩ := plain
  have hafter := @afterIndentation?_of_ne sign rest hspace
  refine ⟨?_, ?_, ?_, ?_, ?_, ?_, ?_, ?_⟩
  · simp only [Line.fence?, hafter]
    simp [hbacktick, htilde]
  · have hline : Line.unindented (sign :: rest) = sign :: rest := by
      rw [Line.unindented, List.dropWhile_cons_of_neg (by simpa using hspace)]
    rw [Line.isIndented, hline, indentation_of_ne hspace]
    split
    · rename_i heq
      exact absurd (List.cons.inj heq).1 htab
    · rfl
  · simp only [Line.heading?, hafter]
    simp [hhash]
  · simp only [Line.underline?, hafter]
    simp [hequals, hhyphen]
  · simp only [Line.isThematicBreak, hafter]
    simp [hhyphen, hunderscore, hasterisk]
  · rw [Line.quoted?, hafter]
    split
    · rename_i heq
      exact absurd (List.cons.inj (Option.some.inj heq)).1 hgreater
    · rfl
  · rw [Html.opening?, hafter]
    split
    · rename_i heq
      exact absurd (List.cons.inj (Option.some.inj heq)).1 hless
    · rfl
  · simp [Link.opensDefinition, hafter, hbracket]

end Head

variable {line : Line}

/-- Behind the digits at the start of a settled line no mark of a list is set off. -/
theorem isSetOff_of_settled {digits rest : Line} {mark : Nat} (settled : Settled line)
    (parts : line = digits ++ mark :: rest) (begins : digits ≠ [])
    (decimal : ∀ digit ∈ digits, Sign.isDecimal digit = true)
    (closes : mark = Sign.fullStop ∨ mark = Sign.rightParenthesis) :
    Line.isSetOff rest = false := by
  refine Bool.eq_false_iff.mpr fun apart => ?_
  refine settled.unordered digits mark rest ⟨parts, begins, decimal, closes, fun next h => ?_⟩
  obtain ⟨others, rfl⟩ := List.head?_eq_some_iff.mp h
  have hnext : Line.isInline next = true := by
    simpa [Line.isSetOff] using apart
  simp only [Line.isInline, Bool.or_eq_true, beq_iff_eq] at hnext
  rcases hnext with rfl | rfl <;> rfl

/-- A settled line begins no list. -/
theorem listMark?_of_settled (settled : Settled line) : Line.listMark? 3 line = none := by
  obtain ⟨sign, rest, rfl, solid, plain⟩ := settled.begins
  have hspace := (ne_of_solid solid).1
  have hbullet : Line.isBullet sign = false := by
    simp only [beginsMarkup, opensBlock, Bool.or_eq_false_iff] at plain
    simp only [Line.isBullet, Bool.or_eq_false_iff]
    tauto
  -- the line is the digits at its start and what follows them
  rw [Line.listMark?, afterIndentation?_of_ne hspace]
  have hline := List.prefix_iff_eq_append.mp
    (List.takeWhile_prefix Sign.isDecimal (l := sign :: rest))
  have hdecimal : ∀ digit ∈ (sign :: rest).takeWhile Sign.isDecimal, Sign.isDecimal digit = true :=
    fun digit h => List.mem_takeWhile_imp h
  simp only
  generalize (sign :: rest).takeWhile Sign.isDecimal = digits at *
  split
  · rfl
  · rename_i mark behind hbehind
    rw [hbehind] at hline
    split
    · rfl
    · rename_i hapart
      split
      · -- without digits the mark is the first sign
        rename_i hnone
        rw [List.isEmpty_iff.mp hnone, List.nil_append, List.cons.injEq] at hline
        rw [hline.1, hbullet]
        rfl
      · rename_i hsome
        split
        · rename_i hmark
          rw [Bool.and_eq_true, Bool.or_eq_true, decide_eq_true_eq, decide_eq_true_eq,
            decide_eq_true_eq] at hmark
          have begins : digits ≠ [] := fun h => hsome (h ▸ rfl)
          rw [isSetOff_of_settled settled hline.symm begins hdecimal hmark.2] at hapart
          exact absurd rfl hapart
        · rfl

/-- **A settled line opens no block**, wherever it stands. -/
theorem opensBlock_of_settled (settled : Settled line) (within : Bool) (behind : List Line) :
    Markdown.opensBlock within line behind = false := by
  have hlist := listMark?_of_settled settled
  obtain ⟨sign, rest, rfl, solid, plain⟩ := settled.begins
  obtain ⟨hfence, hindented, hheading, hunderline, hbreak, hquoted, hhtml, hdefinition⟩ :=
    @unmarked_of_beginsMarkup sign rest solid plain
  have hblank := isBlank_cons_of_solid solid rest
  have hbegins : beginsDefinition ((sign :: rest) :: behind) = false := by
    rw [beginsDefinition, List.head?_cons, Option.any_some, hdefinition]
    rfl
  have hopens : opensHtml within (sign :: rest) = false := by
    rw [opensHtml, hhtml]
    rfl
  simp only [Markdown.opensBlock, hfence, hindented, hheading, hunderline, opensUnmarked, hbreak,
    hquoted, hlist, hblank, hbegins, hopens, Bool.and_false, Bool.or_false, Option.isSome_none]
  rfl

/-! ## (2) Escaped lines -/

/-- A line that begins with a sign that is no digit is not numbered. -/
theorem not_ordered_cons {sign : Nat} (other : Sign.isDecimal sign = false)
    {rest digits after : Text} {mark : Nat} : ¬ Ordered (sign :: rest) digits mark after := by
  intro ordered
  obtain ⟨digit, digits, rfl⟩ := List.exists_cons_of_ne_nil ordered.begins
  have decimal := ordered.decimal digit List.mem_cons_self
  rw [← (List.cons.inj ordered.parts).1, other] at decimal
  cases decimal

/-- A line that begins with a sign to be seen, which begins no block and is no digit, is settled. -/
theorem settled_cons {sign : Nat} (solid : Sign.isBlank sign = false)
    (plain : beginsMarkup sign = false) (other : Sign.isDecimal sign = false) (rest : Line) :
    Settled (sign :: rest) :=
  ⟨⟨sign, rest, rfl, solid, plain⟩, fun _ _ _ => not_ordered_cons other⟩

/-- No digit begins a block. -/
theorem beginsMarkup_of_isDecimal {digit : Nat} (h : Sign.isDecimal digit = true) :
    beginsMarkup digit = false := by
  refine Bool.eq_false_iff.mpr fun hmarkup => ?_
  simp only [beginsMarkup, opensBlock, Bool.or_eq_true, beq_iff_eq] at hmarkup
  rcases hmarkup with (((((((((rfl | rfl) | rfl) | rfl) | rfl) | rfl) | rfl) | rfl) | rfl) | rfl) |
    rfl
  all_goals exact absurd h (by decide)

/-- Digits before a sign that is none are the digits of a list mark, if there is one. -/
theorem Ordered.mark_eq {digits found rest after : Text} {sign mark : Nat}
    (h : Ordered (digits ++ sign :: rest) found mark after)
    (decimal : ∀ digit ∈ digits, Sign.isDecimal digit = true)
    (other : Sign.isDecimal sign = false) : found = digits ∧ mark = sign ∧ after = rest := by
  have hparts := h.parts
  have taken := congrArg (List.takeWhile Sign.isDecimal) hparts
  rw [List.takeWhile_append_of_pos decimal, List.takeWhile_append_of_pos h.decimal,
    List.takeWhile_cons_of_neg (Bool.eq_false_iff.mp other),
    List.takeWhile_cons_of_neg (Bool.eq_false_iff.mp (isDecimal_mark h.closes)),
    List.append_nil, List.append_nil] at taken
  subst taken
  have hrest := List.cons.inj (List.append_cancel_left hparts)
  exact ⟨rfl, hrest.1.symm, hrest.2.symm⟩

/-- An escaped line is not numbered. -/
theorem Escaped.not_ordered {escaped digits after : Text} {mark : Nat} (h : Escaped line escaped) :
    ¬ Ordered escaped digits mark after := by
  cases h with
  | ordered ordered =>
      -- behind the digits stands a backslash, which is no mark
      intro again
      have same := (again.mark_eq ordered.decimal (by decide)).2.1
      rcases again.closes with closes | closes <;> rw [same] at closes <;> cases closes
  | opening _ _ => exact not_ordered_cons (by decide)
  | plain unordered _ =>
      intro ordered
      rw [orderedMark?_eq_some_iff.mpr ⟨mark, after, rfl, ordered⟩] at unordered
      cases unordered

/-- **An escaped line is settled** unless it begins with an underscore or a bracket. -/
theorem settled_escapeLine (shown : Text.isBlank line = false)
    (first : ∀ sign, line.strip.head? = some sign →
      sign ≠ Sign.underscore ∧ sign ≠ Sign.leftBracket) : Settled (escapeLine line) := by
  have escaped := escaped_escapeLine line
  refine ⟨?_, fun _ _ _ => escaped.not_ordered⟩
  have trimmed := line.trimmed_strip
  have hstrip : line.strip ≠ [] := by
    rw [Ne, Text.strip_eq_nil_iff, shown]
    exact Bool.false_ne_true
  revert escaped trimmed hstrip first
  generalize line.strip = trimmed
  generalize escapeLine line = result
  intro first escaped trimmed hstrip
  cases escaped with
  | @ordered digits mark rest ordered =>
      obtain ⟨digit, digits, rfl⟩ := List.exists_cons_of_ne_nil ordered.begins
      have decimal := ordered.decimal digit List.mem_cons_self
      have solid := trimmed.first digit (by rw [ordered.parts]; rfl)
      exact ⟨digit, _, rfl, solid, beginsMarkup_of_isDecimal decimal⟩
  | opening h opens => exact ⟨Sign.backslash, _, rfl, by decide, by decide⟩
  | plain unordered opensNone =>
      obtain ⟨sign, rest, rfl⟩ := List.exists_cons_of_ne_nil hstrip
      obtain ⟨hunderscore, hbracket⟩ := first sign rfl
      refine ⟨sign, rest, rfl, trimmed.first sign rfl, ?_⟩
      rw [beginsMarkup, opensNone sign rfl, beq_eq_false_iff_ne.mpr hunderscore,
        beq_eq_false_iff_ne.mpr hbracket]
      rfl

/-- A settled line stays settled if something is set off behind it. -/
theorem Settled.append (settled : Settled line) (behind : Text) :
    Settled (line ++ Sign.space :: behind) := by
  obtain ⟨sign, rest, hline, solid, plain⟩ := settled.begins
  refine ⟨⟨sign, rest ++ Sign.space :: behind, by rw [hline]; rfl, solid, plain⟩, ?_⟩
  intro digits mark after h
  rcases List.append_eq_append_iff.mp h.parts with
    ⟨between, hdigits, hbehind⟩ | ⟨between, hline, hafter⟩
  · -- the digits do not reach beyond the line
    cases between with
    | nil =>
        obtain ⟨rfl, -⟩ := List.cons.inj hbehind
        rcases h.closes with h | h <;> cases h
    | cons digit between =>
        have hdigit := h.decimal digit (by rw [hdigits]; simp)
        rw [← (List.cons.inj hbehind).1] at hdigit
        exact absurd hdigit (by decide)
  -- the mark stands within the line, so it is one of the line itself
  · cases between with
    | nil =>
        obtain ⟨rfl, -⟩ := List.cons.inj hafter
        rcases h.closes with h | h <;> cases h
    | cons first between =>
        have hmark : mark = first := (List.cons.inj hafter).1
        have hrest : after = between ++ Sign.space :: behind := (List.cons.inj hafter).2
        subst hmark hrest
        refine settled.unordered digits mark between ⟨hline, h.begins, h.decimal, h.closes, ?_⟩
        intro next hnext
        refine h.apart next ?_
        rw [List.head?_append, hnext]
        rfl

end Coursework.Outline
