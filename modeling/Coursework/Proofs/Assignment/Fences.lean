import Coursework.Assignment.Reply
import Coursework.Proofs.Json.RoundTrip
import Coursework.Proofs.Text.Trimming

/-! # Texts within fences

A reply carries a text bare or between fences, with white space around it. Taking the fences away
gives the text back, whatever stands in it: only the first and the last fence are looked at.

* **`Reply.Carries`** is the relation for bare texts and for fences that announce JSON, and
  **`Carries.unfence_eq`** the statement.
* **`Reply.unfence_eq_strip`** is about replies that do not begin with a fence,
  **`Reply.unfence_fenced`** about those that do.
* **`Carries.read_unfence`**: an object that a reply carries is read from it. -/

namespace Coursework

/-! ## (1) White space around a text -/

namespace Text

/-- White space around a trimmed text is taken away. -/
theorem strip_append {before text after : Text} (blankBefore : before.isBlank = true)
    (trimmed : text.Trimmed) (blankAfter : after.isBlank = true) :
    strip (before ++ (text ++ after)) = text := by
  have ahead : ∀ sign ∈ before, Sign.isBlank sign = true := List.all_eq_true.mp blankBefore
  have behind : ∀ sign ∈ after, Sign.isBlank sign = true := List.all_eq_true.mp blankAfter
  have begun : stripStart (before ++ (text ++ after)) = stripStart (text ++ after) :=
    List.dropWhile_append_of_pos ahead
  rw [strip, begun]
  rcases List.eq_nil_or_concat text with rfl | ⟨front, last, rfl⟩
  · have gone : stripStart ([] ++ after) = [] := List.dropWhile_eq_nil_iff.mpr behind
    rw [gone]
    rfl
  · rw [List.concat_eq_append] at trimmed ⊢
    have solid := trimmed.last last (List.getLast?_concat)
    have same := strip_eq_self trimmed
    -- the last sign of the text keeps what stands before it
    have kept : stripStart (front ++ [last] ++ after) = front ++ [last] ++ after := by
      obtain ⟨first, others, split⟩ : ∃ first others, front ++ [last] = first :: others :=
        List.exists_cons_of_ne_nil (by simp)
      have stays := trimmed.first first (by rw [split]; rfl)
      rw [split]
      exact List.dropWhile_cons_of_neg (Bool.eq_false_iff.mp stays)
    have ended : trimEnd Sign.isBlank after = [] := List.rdropWhile_eq_nil_iff.mpr behind
    rw [kept, stripEnd, List.append_assoc, List.singleton_append, trimEnd_append_cons solid, ended]

end Text

namespace Reply

/-! ## (2) Replies with and without a fence -/

/-- The text of a reply that does not begin with a fence is the reply itself. -/
theorem unfence_eq_strip {reply : Text} (bare : reply.strip.startsWith fence = false) :
    unfence reply = reply.strip := by
  have closed : afterOpening? reply.strip = none := by
    rw [← Text.isSome_after?, Option.isSome_eq_false_iff, Option.isNone_iff_eq_none] at bare
    rw [afterOpening?, bare]
  rw [unfence, closed]

/-- An opening fence goes to the end of its line. -/
theorem afterOpening?_fence {tag inline : Text} (isTags : ∀ sign ∈ tag, isTag sign = true)
    (inlines : ∀ sign ∈ inline, isInline sign = true) (body : Text) :
    afterOpening? (fence ++ (tag ++ (inline ++ Sign.newline :: body))) = some body := by
  have untagged : (inline ++ Sign.newline :: body).dropWhile isTag =
      inline ++ Sign.newline :: body := by
    cases inline with
    | nil => exact List.dropWhile_cons_of_neg (by decide)
    | cons sign inline =>
        refine List.dropWhile_cons_of_neg ?_
        have blank := inlines sign List.mem_cons_self
        simp only [isInline, Bool.or_eq_true, beq_iff_eq] at blank
        rcases blank with rfl | rfl <;> decide
  have line : (inline ++ Sign.newline :: body).dropWhile isInline = Sign.newline :: body :=
    (List.dropWhile_append_of_pos inlines).trans (List.dropWhile_cons_of_neg (by decide))
  rw [afterOpening?, Text.after?_append]
  dsimp only
  rw [List.dropWhile_append_of_pos isTags, untagged, line]
  rfl

/-- A text that ends with a fence does not end with white space. -/
theorem isBlank_getLast?_fence (text : Text) {sign : Nat}
    (last : (text ++ fence).getLast? = some sign) : Sign.isBlank sign = false := by
  have split : text ++ fence = (text ++ [Sign.backtick, Sign.backtick]) ++ [Sign.backtick] := by
    rw [List.append_assoc]
    rfl
  rw [split, List.getLast?_concat] at last
  obtain rfl := Option.some.inj last
  decide

/-- What begins with a fence is trimmed if its last sign is no white space. -/
theorem trimmed_fence_append {rest : Text}
    (last : ∀ sign, (fence ++ rest).getLast? = some sign → Sign.isBlank sign = false) :
    (fence ++ rest).Trimmed where
  first sign first := by
    obtain rfl := Option.some.inj first
    decide
  last := last

/-- A closing fence at the end is taken away. -/
theorem beforeClosing_fence (inner : Text) : beforeClosing (inner ++ fence) = inner := by
  have ended : (inner ++ fence).stripEnd = inner ++ fence :=
    Text.trimEnd_eq_self fun _ => isBlank_getLast?_fence inner
  rw [beforeClosing, ended, Text.dropEnding?, List.reverse_append, Text.after?_append,
    Option.map_some, Option.getD_some, List.reverse_reverse]

/-- The text of a reply between fences is what stands between them, without white space. -/
theorem unfence_fenced {before tag inline after : Text} (blankBefore : before.isBlank = true)
    (isTags : ∀ sign ∈ tag, isTag sign = true) (inlines : ∀ sign ∈ inline, isInline sign = true)
    (blankAfter : after.isBlank = true) (inner : Text) :
    unfence (before ++ (fence ++ (tag ++ (inline ++ Sign.newline :: (inner ++ fence))) ++ after)) =
      inner.strip := by
  have trimmed : (fence ++ (tag ++ (inline ++ Sign.newline :: (inner ++ fence)))).Trimmed := by
    refine trimmed_fence_append fun sign last => ?_
    refine isBlank_getLast?_fence (fence ++ (tag ++ (inline ++ Sign.newline :: inner))) ?_
    simpa using last
  rw [unfence, Text.strip_append blankBefore trimmed blankAfter, afterOpening?_fence isTags inlines]
  dsimp only
  rw [beforeClosing_fence]

/-! ## (3) Carried texts -/

/-- A reply carries a text bare or in a fence that announces JSON, with white space around it. -/
inductive Carries (text : Text) : Text → Prop
  /-- The text stands in the reply as it is. -/
  | bare {before after : Text} (blankBefore : before.isBlank = true)
    (blankAfter : after.isBlank = true) : Carries text (before ++ (text ++ after))
  /-- The text stands between fences. -/
  | fenced {before inline first last after : Text} (blankBefore : before.isBlank = true)
    (inlines : ∀ sign ∈ inline, isInline sign = true) (blankFirst : first.isBlank = true)
    (blankLast : last.isBlank = true) (blankAfter : after.isBlank = true) :
    Carries text (before ++ (fence ++ (("json" : Text) ++ (inline ++ Sign.newline ::
      (first ++ (text ++ last) ++ fence))) ++ after))

/-- A text is carried between fences on lines of their own. -/
theorem carries_fenced (text : Text) : Carries text (("```json\n" : Text) ++ text ++ "\n```") := by
  have carries : Carries text ([] ++ (fence ++ (("json" : Text) ++ ([] ++ Sign.newline ::
      ([] ++ (text ++ [Sign.newline]) ++ fence))) ++ [])) :=
    .fenced rfl (by simp) rfl rfl rfl
  rw [List.nil_append, List.append_nil, List.nil_append, List.nil_append,
    List.append_assoc text] at carries
  rw [List.append_assoc]
  exact carries

/-- A trimmed text that does not begin with a fence is taken from a reply that carries it. -/
theorem Carries.unfence_eq {text reply : Text} (carries : Carries text reply)
    (trimmed : text.Trimmed) (plain : text.startsWith fence = false) : unfence reply = text := by
  cases carries with
  | bare blankBefore blankAfter =>
      have same := Text.strip_append blankBefore trimmed blankAfter
      rw [unfence_eq_strip (by rw [same]; exact plain), same]
  | fenced blankBefore inlines blankFirst blankLast blankAfter =>
      rw [unfence_fenced blankBefore (by decide) inlines blankAfter]
      exact Text.strip_append blankFirst trimmed blankLast

/-! ## (4) Carried objects -/

/-- An object with fields is written from its opening to its closing brace. -/
theorem exists_write_object_eq {fields : List (Text × Json)} (some : fields ≠ [])
    (layout : Layout) :
    ∃ inner, Json.write layout (.object fields) =
      Sign.leftBrace :: inner ++ [Sign.rightBrace] := by
  refine ⟨layout.lineStart 1 ++ Json.writeFields layout 1 fields ++ layout.lineStart 0, ?_⟩
  rw [Json.write, Json.writeAt_object some, List.cons_append, List.append_assoc, List.append_assoc]

/-- So it neither begins nor ends with white space. -/
theorem trimmed_write_object {fields : List (Text × Json)} (some : fields ≠ [])
    (layout : Layout) : (Json.write layout (.object fields)).Trimmed := by
  obtain ⟨inner, written⟩ := exists_write_object_eq some layout
  rw [written]
  constructor
  · intro sign first
    obtain rfl := Option.some.inj first
    decide
  · intro sign last
    rw [List.getLast?_concat] at last
    obtain rfl := Option.some.inj last
    decide

/-- An object is read from every reply that carries it, in whatever layout it is written. -/
theorem Carries.read_unfence {fields : List (Text × Json)} {layout : Layout} {reply : Text}
    (carries : Carries (Json.write layout (.object fields)) reply) (some : fields ≠ [])
    (legible : Json.Legible (.object fields)) :
    Json.read (unfence reply) = .ok (.object fields) := by
  have plain : (Json.write layout (.object fields)).startsWith fence = false := by
    obtain ⟨inner, written⟩ := exists_write_object_eq some layout
    rw [written]
    rfl
  rw [carries.unfence_eq (trimmed_write_object some layout) plain]
  exact Json.read_write legible layout

end Reply

end Coursework
