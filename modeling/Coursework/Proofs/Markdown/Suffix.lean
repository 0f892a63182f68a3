import Coursework.Markdown.Inline
import Coursework.Proofs.Text.Lines
import Mathlib.Data.List.DropRight

/-! # What readers leave

A reader of a part of a line returns what follows the part, which is an end of the text that it was
given. So nothing that is read later has other signs.

* **`Link.afterTarget?_suffix`**, **`Link.label?_suffix`** and **`Html.afterInline?_suffix`** are
  the statements for targets, labels and HTML, the others those for their parts.
* **`Link.target?_subset`** and **`Link.definition?_subset`** say where destinations stand. -/

namespace Coursework

namespace Markdown.Link

/-! ## (1) Links -/

theorem skipGap_suffix (text : Text) : skipGap text <:+ text := by
  have hgap := List.dropWhile_suffix Line.isInline (l := text)
  rw [skipGap]
  split
  · rename_i rest hline
    rw [hline] at hgap
    exact (List.dropWhile_suffix _).trans ((List.suffix_cons _ rest).trans hgap)
  · exact hgap

theorem afterAngle?_suffix {text rest : Text} (h : afterAngle? text = some rest) :
    rest <:+ text := by
  fun_induction afterAngle? text <;> grind [Text.suffix_cons_of]

theorem afterBare?_suffix {depth : Nat} {text rest : Text} (h : afterBare? depth text = some rest) :
    rest <:+ text := by
  fun_induction afterBare? depth text <;> grind [Text.suffix_cons_of]

theorem afterDestination?_suffix {text rest : Text} (h : afterDestination? text = some rest) :
    rest <:+ text := by
  rw [afterDestination?.eq_def] at h
  split at h
  · exact Text.suffix_cons_of (afterAngle?_suffix h) _
  · exact afterBare?_suffix h

theorem afterTitleBody?_suffix {opening closing : Nat} {text rest : Text}
    (h : afterTitleBody? opening closing text = some rest) : rest <:+ text := by
  fun_induction afterTitleBody? opening closing text <;> grind [Text.suffix_cons_of]

theorem afterTitle?_suffix {text rest : Text} (h : afterTitle? text = some rest) :
    rest <:+ text := by
  rw [afterTitle?.eq_def] at h
  split at h
  · exact Text.suffix_cons_of (afterTitleBody?_suffix h) _
  · exact Text.suffix_cons_of (afterTitleBody?_suffix h) _
  · exact Text.suffix_cons_of (afterTitleBody?_suffix h) _
  · cases h

theorem afterTarget?_suffix {text rest : Text} (h : afterTarget? text = some rest) :
    rest <:+ text := by
  rw [afterTarget?.eq_def] at h
  split at h
  · rename_i inner
    split at h
    · cases h
    · rename_i behind hdestination
      have hbehind := (afterDestination?_suffix hdestination).trans (skipGap_suffix inner)
      have hgap := (skipGap_suffix behind).trans hbehind
      simp only at h
      split at h
      -- a title may stand between the destination and the parenthesis
      · rename_i closed hclosed
        rw [← Option.some.inj h]
        refine Text.suffix_cons_of ((List.suffix_cons Sign.rightParenthesis closed).trans ?_) _
        rw [← hclosed]
        split
        · rename_i after htitle
          refine (skipGap_suffix after).trans (List.IsSuffix.trans ?_ hgap)
          split at htitle
          · exact afterTitle?_suffix htitle
          · cases htitle
        · exact hgap
      · cases h
  · cases h

/-- A destination is a part of the text at which it is read. -/
theorem destination_subset (text behind : Text) : destination text behind ⊆ text := by
  have written := List.take_subset (text.length - behind.length) text
  rw [destination.eq_def]
  split
  · have dropped := List.Subset.trans (List.drop_subset 1 _) written
    exact List.Subset.trans (List.dropLast_subset _) dropped
  · exact written

theorem target?_subset {text found : Text} (h : target? text = some found) : found ⊆ text := by
  obtain ⟨_, -, h⟩ := Option.bind_eq_some_iff.mp h
  obtain ⟨behind, -, rfl⟩ := Option.map_eq_some_iff.mp h
  exact List.Subset.trans (destination_subset _ _)
    (List.Subset.trans (skipGap_suffix _).subset (List.drop_subset 1 text))

theorem labelBody?_suffix {room : Nat} {text label rest : Text}
    (h : labelBody? room text = some (label, rest)) : rest <:+ text := by
  fun_induction labelBody? room text generalizing label rest <;>
    grind [Text.suffix_cons_of, Option.map_eq_some_iff]

theorem label?_suffix {text label rest : Text} (h : label? text = some (label, rest)) :
    rest <:+ text := by
  rw [label?.eq_def] at h
  split at h
  · exact Text.suffix_cons_of (labelBody?_suffix h) _
  · cases h

theorem definition?_subset {text rest : Text} {found : Definition}
    (h : definition? text = some (found, rest)) : found.destination ⊆ text := by
  rw [definition?.eq_def] at h
  split at h
  · cases h
  · rename_i behind hindented
    have own : behind ⊆ text := by
      rw [Line.afterIndentation?] at hindented
      split at hindented
      · rw [← Option.some.inj hindented]
        exact List.dropWhile_subset _
      · cases hindented
    split at h
    · rename_i label after hlabel
      have inside : after ⊆ text := List.Subset.trans (List.subset_cons_self _ after)
        (List.Subset.trans (label?_suffix hlabel).subset own)
      split at h
      · cases h
      · dsimp only at h
        split at h
        · cases h
        · split at h
          · cases h
          · obtain ⟨_, -, h⟩ := Option.map_eq_some_iff.mp h
            obtain ⟨rfl, -⟩ := Prod.mk.inj h
            exact List.Subset.trans (destination_subset _ _)
              (List.Subset.trans (skipGap_suffix after).subset inside)
    · cases h

end Markdown.Link

namespace Markdown.Html

/-! ## (2) HTML -/

theorem tagName?_suffix {text name rest : Text} (h : tagName? text = some (name, rest)) :
    rest <:+ text := by
  cases text with
  | nil => cases h
  | cons sign text =>
      rw [tagName?] at h
      split at h
      · rw [Option.some.injEq, Prod.mk.injEq] at h
        rw [← h.2]
        exact Text.suffix_cons_of (List.dropWhile_suffix _) _
      · cases h

theorem afterQuote?_suffix {quote : Nat} {text rest : Text}
    (h : afterQuote? quote text = some rest) :
    rest <:+ text := by
  have hstart := List.dropWhile_suffix (· != quote) (l := text)
  rw [afterQuote?] at h
  split at h
  · rename_i sign behind hbehind
    rw [hbehind] at hstart
    rw [← Option.some.inj h]
    exact (List.suffix_cons sign behind).trans hstart
  · cases h

theorem afterValue?_suffix {text rest : Text} (h : afterValue? text = some rest) :
    rest <:+ text := by
  rw [afterValue?.eq_def] at h
  split at h
  · exact Text.suffix_cons_of (afterQuote?_suffix h) _
  · exact Text.suffix_cons_of (afterQuote?_suffix h) _
  · simp only at h
    split at h
    · rw [← Option.some.inj h]
      exact List.dropWhile_suffix _
    · cases h

theorem afterAttribute?_suffix {text rest : Text} (h : afterAttribute? text = some rest) :
    rest <:+ text := by
  cases text with
  | nil => cases h
  | cons first text =>
      have hstart := List.dropWhile_suffix isGap (l := first :: text)
      rw [afterAttribute?] at h
      split at h
      · cases h
      · split at h
        · cases h
        · rename_i start behind hbehind
          rw [hbehind] at hstart
          have hbehind := (List.suffix_cons start behind).trans hstart
          have hnamed := (List.dropWhile_suffix isAttributeSign (l := behind)).trans hbehind
          -- a name may be followed by a value
          split at h
          · cases h
          · simp only at h
            split at h
            · rename_i value hvalue
              rw [← Option.some.inj h]
              cases hfound : afterValue? (value.dropWhile isGap) with
              | none => exact hnamed
              | some after =>
                  have hequals := List.dropWhile_suffix isGap
                    (l := behind.dropWhile isAttributeSign)
                  rw [hvalue] at hequals
                  exact ((afterValue?_suffix hfound).trans (List.dropWhile_suffix isGap)).trans
                    ((List.suffix_cons _ value).trans (hequals.trans hnamed))
            · rw [← Option.some.inj h]
              exact hnamed

theorem afterAttributes_suffix (steps : Nat) (text : Text) :
    afterAttributes steps text <:+ text := by
  induction steps generalizing text with
  | zero => exact List.suffix_rfl
  | succ steps ih =>
      rw [afterAttributes]
      split
      · rename_i rest h
        exact (ih rest).trans (afterAttribute?_suffix h)
      · exact List.suffix_rfl

theorem afterComment?_suffix {text rest : Text} (h : afterComment? text = some rest) :
    rest <:+ text := by
  rw [afterComment?.eq_def] at h
  split at h
  · rw [← Option.some.inj h]
    exact List.suffix_cons _ _
  · rw [← Option.some.inj h]
    exact Text.suffix_cons_of (List.suffix_cons _ _) _
  · exact Text.afterFirst?_suffix h

theorem afterOpeningTag?_suffix {text rest : Text} (h : afterOpeningTag? text = some rest) :
    rest <:+ text := by
  have hgap := (List.dropWhile_suffix isGap).trans (afterAttributes_suffix text.length text)
  rw [afterOpeningTag?] at h
  split at h
  · rename_i behind hbehind
    rw [hbehind] at hgap
    rw [← Option.some.inj h]
    exact (List.suffix_cons _ behind).trans hgap
  · rename_i behind hbehind
    rw [hbehind] at hgap
    rw [← Option.some.inj h]
    exact (Text.suffix_cons_of (List.suffix_cons _ behind) _).trans hgap
  · cases h

theorem afterInline?_suffix {text rest : Text} (h : afterInline? text = some rest) :
    rest <:+ text := by
  rw [afterInline?.eq_def] at h
  split at h
  · split at h
    · cases h
    · rename_i name behind hname
      have hgap := (List.dropWhile_suffix isGap).trans (tagName?_suffix hname)
      split at h
      · rename_i after hafter
        rw [hafter] at hgap
        rw [← Option.some.inj h]
        exact Text.suffix_cons_of ((List.suffix_cons _ after).trans hgap) _
      · cases h
  · exact Text.suffix_cons_of (Text.afterFirst?_suffix h) _
  · exact Text.suffix_cons_of (Text.suffix_cons_of
      (Text.suffix_cons_of (afterComment?_suffix h) _) _) _
  · split at h
    · rename_i behind hbehind
      exact Text.suffix_cons_of ((Text.afterFirst?_suffix h).trans (Text.after?_suffix hbehind)) _
    · split at h
      · exact Text.suffix_cons_of (Text.afterFirst?_suffix h) _
      · cases h
  · rw [Option.bind_eq_some_iff] at h
    obtain ⟨found, hname, htag⟩ := h
    exact (afterOpeningTag?_suffix htag).trans (tagName?_suffix hname)

end Markdown.Html

namespace Markdown.Inline

/-! ## (3) Code, addresses and references -/

/-- Code and what follows it are made of the signs of the text. -/
theorem codeBody?_subset {count steps : Nat} {text body rest : Text}
    (h : codeBody? count steps text = some (body, rest)) : body ⊆ text ∧ rest <:+ text := by
  induction steps generalizing text body rest with
  | zero => cases h
  | succ steps ih =>
      cases text with
      | nil => cases h
      | cons sign text =>
          rw [codeBody?] at h
          split at h
          -- a run of backticks either ends the code or belongs to it
          · rename_i hsign
            have hrun := List.dropWhile_suffix (· == Sign.backtick) (l := text)
            simp only at h
            split at h
            · rw [Option.some.injEq, Prod.mk.injEq] at h
              rw [← h.1, ← h.2]
              exact ⟨List.nil_subset _, Text.suffix_cons_of hrun _⟩
            · rw [Option.map_eq_some_iff] at h
              obtain ⟨⟨code, after⟩, hcode, hfound⟩ := h
              rw [Prod.mk.injEq] at hfound
              obtain ⟨rfl, rfl⟩ := hfound
              obtain ⟨hbody, hrest⟩ := ih hcode
              refine ⟨List.append_subset.mpr ⟨fun other hother => ?_, ?_⟩,
                Text.suffix_cons_of (hrest.trans hrun) _⟩
              · rw [List.eq_of_mem_replicate hother, hsign]
                exact List.mem_cons_self
              · exact fun other hother => List.mem_cons_of_mem _ (hrun.subset (hbody hother))
          · rw [Option.map_eq_some_iff] at h
            obtain ⟨⟨code, after⟩, hcode, hfound⟩ := h
            rw [Prod.mk.injEq] at hfound
            obtain ⟨rfl, rfl⟩ := hfound
            obtain ⟨hbody, hrest⟩ := ih hcode
            exact ⟨List.cons_subset_cons _ hbody, Text.suffix_cons_of hrest _⟩

/-- An address with a scheme stands before the closing sign. -/
theorem link?_eq_some {text address rest : Text} (h : link? text = some (address, rest)) :
    text = address ++ Sign.greaterThan :: rest := by
  have hscheme := List.prefix_iff_eq_append.mp (List.takeWhile_prefix isSchemeSign (l := text))
  simp only [link?] at h
  split at h
  · rename_i path hcolon
    split at h
    · split at h
      · rename_i after hafter
        rw [Option.some.injEq, Prod.mk.injEq] at h
        obtain ⟨haddress, rfl⟩ := h
        rw [← hscheme, hcolon, ← haddress, ← hafter, List.append_assoc, List.cons_append,
          List.takeWhile_append_dropWhile]
      · cases h
    · cases h
  · cases h

/-- So does a mail address. -/
theorem mail?_eq_some {text address rest : Text} (h : mail? text = some (address, rest)) :
    text = address ++ Sign.greaterThan :: rest := by
  have hmailbox := List.prefix_iff_eq_append.mp (List.takeWhile_prefix isMailboxSign (l := text))
  simp only [mail?] at h
  split at h
  · rename_i behind hbehind
    have hdomain := List.prefix_iff_eq_append.mp (List.takeWhile_prefix
      (fun sign => Html.isNameSign sign || sign == Sign.fullStop) (l := behind))
    split at h
    · rename_i after hafter
      split at h
      · rw [Option.some.injEq, Prod.mk.injEq] at h
        obtain ⟨haddress, rfl⟩ := h
        rw [hafter] at hdomain
        rw [← hmailbox, hbehind, ← haddress, List.append_assoc, List.cons_append, hdomain]
      · cases h
    · cases h
  · cases h

theorem afterReference?_suffix {labels : List Text} {behind text rest : Text}
    (h : afterReference? labels behind text = some rest) : rest <:+ text := by
  simp only [afterReference?] at h
  split at h
  · split at h
    · split at h
      · obtain rfl := Option.some.inj h
        exact List.suffix_rfl
      · cases h
    · cases h
  · rename_i after hlabel
    split at h
    · split at h
      · rw [← Option.some.inj h]
        exact Link.label?_suffix hlabel
      · cases h
    · cases h
  · rename_i label after _ hlabel
    split at h
    · rw [← Option.some.inj h]
      exact Link.label?_suffix hlabel
    · cases h

end Markdown.Inline

end Coursework
