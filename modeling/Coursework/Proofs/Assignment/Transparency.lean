import Coursework.Proofs.Assignment.Fences

/-! # Fences make no difference

A text is judged in the same way bare and behind an opening fence, with or without a closing one.
What is cut off is white space and the two fences, and no sign of the text, whatever backticks and
white space it has itself.

* **`Text.strip_pad`**: white space around any text is taken away with its own.
* **`Reply.Fenced`** is a text behind a fence; **`Reply.Fenced.unfence_eq`** takes it out again.
* **`Reply.SameJudgement`** is agreement in all but the text that a rejection carries.
* **`Reply.fenced_transparent`** is the main statement. -/

namespace Coursework

/-! ## (1) White space at the ends -/

namespace Text

/-- A text is what is left of it after trimming its end, and white space. -/
theorem exists_stripEnd_append (text : Text) :
    ∃ after : Text, after.isBlank = true ∧ text = text.stripEnd ++ after := by
  refine ⟨(text.reverse.takeWhile Sign.isBlank).reverse, ?_, ?_⟩
  · rw [isBlank, List.all_reverse]
    exact List.all_takeWhile
  · have whole := congrArg List.reverse
      (List.takeWhile_append_dropWhile (p := Sign.isBlank) (l := text.reverse))
    rw [List.reverse_append, List.reverse_reverse] at whole
    exact whole.symm

/-- A text is its trimmed form with white space around it. -/
theorem exists_append_strip_append (text : Text) :
    ∃ before after : Text, before.isBlank = true ∧ after.isBlank = true ∧
      text = before ++ (text.strip ++ after) := by
  obtain ⟨after, blankAfter, ended⟩ := exists_stripEnd_append text.stripStart
  refine ⟨text.takeWhile Sign.isBlank, after, List.all_takeWhile, blankAfter, ?_⟩
  calc text
    _ = text.takeWhile Sign.isBlank ++ text.stripStart := List.takeWhile_append_dropWhile.symm
    _ = text.takeWhile Sign.isBlank ++ (text.strip ++ after) := by rw [strip, ← ended]

theorem isBlank_append (first second : Text) :
    isBlank (first ++ second) = (first.isBlank && second.isBlank) := List.all_append

/-- White space around a text is taken away together with that at its own ends. -/
theorem strip_pad {before after : Text} (blankBefore : before.isBlank = true) (text : Text)
    (blankAfter : after.isBlank = true) : strip (before ++ (text ++ after)) = text.strip := by
  obtain ⟨first, last, blankFirst, blankLast, whole⟩ := exists_append_strip_append text
  have padded : before ++ (text ++ after) =
      (before ++ first) ++ (text.strip ++ (last ++ after)) := by
    conv_lhs => rw [whole]
    simp only [List.append_assoc]
  rw [padded]
  refine strip_append ?_ text.trimmed_strip ?_
  · rw [isBlank_append, blankBefore, blankFirst, Bool.and_self]
  · rw [isBlank_append, blankLast, blankAfter, Bool.and_self]

theorem strip_stripEnd (text : Text) : text.stripEnd.strip = text.strip := by
  obtain ⟨after, blankAfter, whole⟩ := exists_stripEnd_append text
  have padded : strip ([] ++ (text.stripEnd ++ after)) = text.stripEnd.strip :=
    strip_pad rfl _ blankAfter
  rw [List.nil_append, ← whole] at padded
  exact padded.symm

end Text

namespace Reply

/-! ## (2) Texts behind a fence -/

/-- A text behind an opening fence, with white space around the whole. -/
inductive Fenced (body : Text) : Text → Prop
  /-- A closing fence stands on a line of its own behind the text. -/
  | closed {before tag inline after : Text} (blankBefore : before.isBlank = true)
    (tags : ∀ sign ∈ tag, isTag sign = true)
    (inlines : ∀ sign ∈ inline, isInline sign = true)
    (blankAfter : after.isBlank = true) :
    Fenced body (before ++ (fence ++ (tag ++ (inline ++ Sign.newline ::
      (body ++ [Sign.newline] ++ fence))) ++ after))
  /-- There is no closing fence, and the text does not look as if it ended with one. A line feed
  behind the text is white space. -/
  | unclosed {before tag inline after : Text} (blankBefore : before.isBlank = true)
    (tags : ∀ sign ∈ tag, isTag sign = true)
    (inlines : ∀ sign ∈ inline, isInline sign = true)
    (blankAfter : after.isBlank = true) (unended : body.stripEnd.endsWith fence = false) :
    Fenced body (before ++ (fence ++ (tag ++ (inline ++ Sign.newline :: body)) ++ after))

/-- A text without a closing fence at its end is not cut. -/
theorem beforeClosing_eq_self {body : Text} (unended : body.stripEnd.endsWith fence = false) :
    beforeClosing body = body := by
  have none : Text.after? body.stripEnd.reverse fence.reverse = none := by
    rw [← Option.isNone_iff_eq_none, ← Option.isSome_eq_false_iff, Text.isSome_after?]
    exact unended
  rw [beforeClosing, Text.dropEnding?, none]
  rfl

/-- An opening fence alone, with a tag at most, opens an empty text. -/
theorem afterOpening?_tag {tag : Text} (tags : ∀ sign ∈ tag, isTag sign = true) :
    afterOpening? (fence ++ tag) = some [] := by
  have rest : tag.dropWhile isTag = [] := List.dropWhile_eq_nil_iff.mpr tags
  rw [afterOpening?, Text.after?_append]
  dsimp only
  rw [rest]
  rfl

/-- The signs of a tag are no white space. -/
theorem isBlank_eq_false_of_isTag {sign : Nat} (tag : isTag sign = true) :
    Sign.isBlank sign = false := by
  simp only [isTag, Sign.isAlphanumeric, Sign.isLetter, Sign.isUpper, Sign.isLower, Sign.isDigit,
    Sign.underscore, Sign.hyphen, Bool.or_eq_true, Bool.and_eq_true, decide_eq_true_eq,
    beq_iff_eq] at tag
  simp only [Sign.isBlank, Bool.or_eq_false_iff, Bool.and_eq_false_iff, decide_eq_false_iff_not,
    beq_eq_false_iff_ne]
  omega

/-- If only white space stands behind an opening fence, nothing is found there. -/
theorem unfence_opening {before tag behind : Text} (blankBefore : before.isBlank = true)
    (tags : ∀ sign ∈ tag, isTag sign = true) (blankBehind : behind.isBlank = true) :
    unfence (before ++ ((fence ++ tag) ++ behind)) = [] := by
  have trimmed : (fence ++ tag).Trimmed := trimmed_fence_append fun sign last => by
    rcases List.mem_append.mp (List.mem_of_getLast? last) with fenced | tagged
    · exact (by decide : ∀ sign ∈ fence, Sign.isBlank sign = false) sign fenced
    · exact isBlank_eq_false_of_isTag (tags sign tagged)
  rw [unfence, Text.strip_append blankBefore trimmed blankBehind, afterOpening?_tag tags]
  rfl

/-- An opening fence is cut off in front of a text that ends with no white space and no fence. -/
theorem unfence_opened {before tag inline body after : Text} (blankBefore : before.isBlank = true)
    (tags : ∀ sign ∈ tag, isTag sign = true)
    (inlines : ∀ sign ∈ inline, isInline sign = true)
    (solid : body.stripEnd ≠ []) (unended : body.stripEnd.endsWith fence = false)
    (blankAfter : after.isBlank = true) :
    unfence (before ++ ((fence ++ (tag ++ (inline ++ Sign.newline :: body.stripEnd))) ++ after)) =
      body.strip := by
  have trimmed : (fence ++ (tag ++ (inline ++ Sign.newline :: body.stripEnd))).Trimmed := by
    refine trimmed_fence_append fun sign last => ?_
    have whole : fence ++ (tag ++ (inline ++ Sign.newline :: body.stripEnd)) =
        (fence ++ (tag ++ (inline ++ [Sign.newline]))) ++ body.stripEnd := by
      simp only [List.append_assoc, List.singleton_append]
    rw [whole, List.getLast?_append_of_ne_nil _ solid] at last
    exact Text.getLast?_trimEnd last
  have ended : body.stripEnd.stripEnd = body.stripEnd :=
    Text.trimEnd_eq_self fun _ => Text.getLast?_trimEnd
  rw [unfence, Text.strip_append blankBefore trimmed blankAfter, afterOpening?_fence tags inlines]
  dsimp only
  rw [beforeClosing_eq_self (by rwa [ended]), Text.strip_stripEnd]

/-- The text behind a fence is found again, without the white space at its ends. -/
theorem Fenced.unfence_eq {body reply : Text} (fenced : Fenced body reply) :
    unfence reply = body.strip := by
  cases fenced with
  | closed blankBefore tags inlines blankAfter =>
      rw [unfence_fenced blankBefore tags inlines blankAfter]
      have padded : Text.strip ([] ++ (body ++ [Sign.newline])) = body.strip :=
        Text.strip_pad rfl body rfl
      exact padded
  | @unclosed before tag inline after blankBefore tags inlines blankAfter unended =>
      obtain ⟨last, blankLast, whole⟩ := Text.exists_stripEnd_append body
      by_cases solid : body.stripEnd = []
      · -- a blank text is trimmed away with the white space behind the whole
        rw [solid, List.nil_append] at whole
        subst whole
        have blankInline : inline.isBlank = true := List.all_eq_true.mpr fun sign member => by
          have blank := inlines sign member
          simp only [isInline, Bool.or_eq_true, beq_iff_eq] at blank
          rcases blank with rfl | rfl <;> decide
        have blankBehind : (inline ++ Sign.newline :: body ++ after).isBlank = true := by
          have line : Text.isBlank (Sign.newline :: body) = true := blankLast
          rw [Text.isBlank_append, Text.isBlank_append, blankInline, line, blankAfter]
          rfl
        have found := unfence_opening blankBefore tags blankBehind
        rw [Text.strip_eq_nil_iff.mpr blankLast, ← found]
        simp only [List.append_assoc, List.cons_append]
      · have blankBehind : (last ++ after).isBlank = true := by
          rw [Text.isBlank_append, blankLast, blankAfter, Bool.and_self]
        rw [← unfence_opened blankBefore tags inlines solid unended blankBehind]
        conv_lhs => rw [whole]
        simp only [List.append_assoc, List.cons_append]

/-! ## (3) Judgements -/

/-- Two judgements are the same up to the text that a rejection carries: the same record, or
failures of one cause, and the same diagnostics. -/
inductive SameJudgement :
    Outcome Record × List Diagnostic → Outcome Record × List Diagnostic → Prop
  /-- Both replies are accepted. -/
  | accepted (record : Record) (noticed : List Diagnostic) :
    SameJudgement (.ok record, noticed) (.ok record, noticed)
  /-- Both are rejected for one cause, so that kind and message are the same. -/
  | rejected (cause : Rejection.Cause) (source other : Json) (noticed : List Diagnostic) :
    SameJudgement (.error (.rejected ⟨cause, source⟩), noticed)
      (.error (.rejected ⟨cause, other⟩), noticed)
  /-- Reading stops with the same failure. -/
  | stopped (failure : Failure) (noticed : List Diagnostic) :
    SameJudgement (.error failure, noticed) (.error failure, noticed)

/-- Every judgement is the same as itself. -/
theorem SameJudgement.refl (judgement : Outcome Record × List Diagnostic) :
    SameJudgement judgement judgement := by
  obtain ⟨record | failure, noticed⟩ := judgement
  · exact .stopped _ _
  · exact .accepted _ _

/-- A text is judged by what stands within the fences. -/
theorem validate_text (text : Text) :
    validate (.text text) =
      (decodeUnfenced (unfence text) (.text text)).bind (assemble (unfence text)) := rfl

/-- Replies with the same text within the fences are judged in the same way. -/
theorem sameJudgement_of_unfence_eq {reply other : Text} (same : unfence reply = unfence other)
    (noticed : List Diagnostic) :
    SameJudgement (validateInto noticed (.text reply)) (validateInto noticed (.text other)) := by
  by_cases empty : (unfence other).isEmpty = true
  · -- the one rejection that carries the reply as it was given
    have rejected : ∀ {text : Text}, (unfence text).isEmpty = true →
        validateInto noticed (.text text) =
          (.error (.rejected ⟨.empty, .text text⟩), noticed) := fun {text} nothing => by
      rw [validateInto, validate_text, decodeUnfenced, if_pos nothing]
      rfl
    rw [rejected empty, rejected (same ▸ empty)]
    exact .rejected _ _ _ _
  · have alike : validate (.text reply) = validate (.text other) := by
      rw [validate_text, validate_text, decodeUnfenced, decodeUnfenced, same, if_neg empty,
        if_neg empty]
    rw [validateInto, validateInto, alike]
    exact .refl _

/-- **Fences make no difference.** A text behind a fence is found again, trimmed, and so is any
text that does not begin with a fence after trimming. Such a text gets the same judgement bare and
behind a fence: the same record and diagnostics, or the same failure. -/
theorem fenced_transparent (body : Text) :
    (∀ reply, Fenced body reply → unfence reply = body.strip) ∧
      (body.strip.startsWith fence = false →
        unfence body = body.strip ∧
          ∀ reply, Fenced body reply → ∀ noticed,
            SameJudgement (validateInto noticed (.text reply))
              (validateInto noticed (.text body))) := by
  refine ⟨fun reply => Fenced.unfence_eq, fun plain => ⟨unfence_eq_strip plain, ?_⟩⟩
  intro reply fenced noticed
  refine sameJudgement_of_unfence_eq ?_ noticed
  rw [fenced.unfence_eq, unfence_eq_strip plain]

/-- A text that holds a fence itself, behind an open one. -/
theorem fenced_transparent_inner :
    Fenced "\t1 ```\n x" ("\n```json-5 \n\t1 ```\n x\n " : Text) ∧
      unfence "\n```json-5 \n\t1 ```\n x\n " = ("1 ```\n x" : Text) ∧
        ∀ noticed, SameJudgement
          (validateInto noticed (.text "\n```json-5 \n\t1 ```\n x\n "))
          (validateInto noticed (.text "\t1 ```\n x")) := by
  have fenced : Fenced "\t1 ```\n x" ("\n```json-5 \n\t1 ```\n x\n " : Text) :=
    @Fenced.unclosed _ "\n" "json-5" " " "\n " rfl (by decide) (by decide) rfl (by decide)
  have whole := fenced_transparent "\t1 ```\n x"
  exact ⟨fenced, (whole.1 _ fenced).trans (by decide), (whole.2 (by decide)).2 _ fenced⟩

end Reply

end Coursework
