import Coursework.Proofs.Outline.Escape
import Coursework.Markdown.Line

/-! # Closing runs

A heading may be closed by number signs behind white space, which are not shown. Escaping does not
protect them: a title on one line that ends with a space and number signs loses these signs.

* **`Outline.hasClosingRun`** holds of such a title, **`Escaped.hasClosingRun`**: escaping makes no
  difference.
* **`Outline.withoutClosing_eq`** says what is left of a heading. -/

namespace Coursework.Outline

open Markdown

/-- Whether a text ends with a space and number signs. -/
def hasClosingRun (text : Text) : Bool :=
  text.getLast? == some Sign.hash &&
    (text.trimEnd (· == Sign.hash)).getLast? == some Sign.space

variable {sign : Nat} {text line : Text}

/-- What stands before another sign does not matter. -/
theorem hasClosingRun_append_cons (hash : sign ≠ Sign.hash) (space : sign ≠ Sign.space)
    (first second : Text) : hasClosingRun (first ++ sign :: second) = hasClosingRun second := by
  have hkept := @Text.trimEnd_append_cons (· == Sign.hash) sign (beq_eq_false_iff_ne.mpr hash)
  have hlast (behind : Text) :
      (first ++ sign :: behind).getLast? = some (behind.getLast?.getD sign) := by
    rw [List.getLast?_append, List.getLast?_cons, Option.some_or]
  rw [hasClosingRun, hasClosingRun, hkept, hlast, hlast]
  cases second.getLast? with
  | none => simp [hash]
  | some last =>
      cases (Text.trimEnd (· == Sign.hash) second).getLast? with
      | none => simp [space]
      | some _ => rfl

/-- A line ends like its escaped form. -/
theorem Escaped.hasClosingRun {escaped : Text} (h : Escaped line escaped) :
    hasClosingRun escaped = hasClosingRun line := by
  cases h with
  | @ordered digits mark rest ordered =>
      have hhash : mark ≠ Sign.hash := by
        rcases ordered.closes with rfl | rfl <;> decide
      have hspace : mark ≠ Sign.space := by
        rcases ordered.closes with rfl | rfl <;> decide
      rw [ordered.parts, List.append_cons, hasClosingRun_append_cons hhash hspace,
        hasClosingRun_append_cons hhash hspace]
  | @opening sign rest h opens =>
      exact hasClosingRun_append_cons (by decide) (by decide) [] line
  | plain unordered opensNone => rfl

/-- A heading on one line, whose words are separated by spaces and which does not begin with a
number sign, is shown without a closing run, if it has one. -/
theorem withoutClosing_eq {first : Nat} {rest : Text} (hash : first ≠ Sign.hash)
    (trimmed : Text.Trimmed (first :: rest))
    (spaces : ∀ sign ∈ first :: rest, Sign.isBlank sign = true → sign = Sign.space) :
    Line.withoutClosing (first :: rest) = if hasClosingRun (first :: rest) then
      (Text.trimEnd (· == Sign.hash) (first :: rest)).stripEnd else first :: rest := by
  have hstrip : Text.stripEnd (first :: rest) = first :: rest := Text.trimEnd_eq_self trimmed.last
  -- the first sign stays, so that something is left without the closing run
  have hbody : Text.trimEnd (· == Sign.hash) (first :: rest) =
      first :: Text.trimEnd (· == Sign.hash) rest :=
    @Text.trimEnd_append_cons (· == Sign.hash) first (beq_eq_false_iff_ne.mpr hash) [] rest
  obtain ⟨last, hlast⟩ : ∃ last, (first :: rest).getLast? = some last :=
    ⟨_, List.getLast?_cons⟩
  obtain ⟨behind, hbehind⟩ : ∃ behind,
      (Text.trimEnd (· == Sign.hash) (first :: rest)).getLast? = some behind := by
    rw [hbody]
    exact ⟨_, List.getLast?_cons⟩
  have hmember : behind ∈ first :: rest :=
    (List.rdropWhile_prefix _ (first :: rest)).subset (List.mem_of_getLast? hbehind)
  have hgap : Sign.isBlank behind = (behind == Sign.space) := by
    rw [Bool.eq_iff_iff, beq_iff_eq]
    refine ⟨spaces behind hmember, ?_⟩
    rintro rfl
    rfl
  rw [Line.withoutClosing, hstrip, hasClosingRun, hlast, hbehind]
  by_cases hend : last = Sign.hash
  -- a closing run needs white space before it, and that is a space here
  · have shorter := @Text.length_trimEnd_lt (· == Sign.hash) _ _ hlast (beq_iff_eq.mpr hend)
    have hsome : ¬ (Text.trimEnd (· == Sign.hash) (first :: rest)).isEmpty = true := by
      rw [hbody]
      exact Bool.false_ne_true
    rw [if_neg (Nat.ne_of_lt shorter), if_neg hsome, hend]
    simp [hgap]
  -- without a number sign at the end there is no closing run
  · have whole : Text.trimEnd (· == Sign.hash) (first :: rest) = first :: rest := by
      refine Text.trimEnd_eq_self fun sign h => ?_
      rw [← Option.some.inj (hlast.symm.trans h)]
      exact beq_eq_false_iff_ne.mpr hend
    rw [whole, if_pos rfl]
    simp [hend]

/-- A closing run and the space before it are two signs at least. -/
theorem length_withoutClosing {text : Text} (closing : hasClosingRun text = true) :
    ((text.trimEnd (· == Sign.hash)).stripEnd).length + 2 ≤ text.length := by
  rw [hasClosingRun, Bool.and_eq_true, beq_iff_eq, beq_iff_eq] at closing
  have hashes := @Text.length_trimEnd_lt (· == Sign.hash) _ _ closing.1 rfl
  have spaces := @Text.length_trimEnd_lt Sign.isBlank _ _ closing.2 rfl
  rw [Text.stripEnd]
  omega

end Coursework.Outline
