import Coursework.Proofs.Assignment.Acceptance
import Coursework.Proofs.Json.Reading

/-! # Rejected replies

A reply that is not accepted is rejected for one of a few causes, with the text that was looked
at, unless it has a numeral with more digits than are read. Whatever the cause is, what is said of
it shows no sign of the reply that has no encoded form.

* **`Reply.Overlong`** holds of replies with such a numeral, where it is read.
* **`Reply.Judged`** lists what becomes of a reply; **`Reply.judged_validate`** shows that there
  is nothing else.
* **`Reply.hasSurrogate_unfence`**: the text within the fences has a surrogate exactly if the
  reply has. -/

namespace Coursework

/-! ## (1) The text within the fences -/

namespace Reply

/-- The signs of a language tag and those behind it are no surrogates. -/
theorem hasSurrogate_afterTag (text : Text) :
    Text.hasSurrogate ((text.dropWhile isTag).dropWhile isInline) = text.hasSurrogate := by
  have tag : ∀ sign, Sign.isSurrogate sign = true → isTag sign = false := by
    intro sign surrogate
    simp only [Sign.isSurrogate, Bool.and_eq_true, decide_eq_true_eq] at surrogate
    simp only [isTag, Sign.isAlphanumeric, Sign.isLetter, Sign.isUpper, Sign.isLower, Sign.isDigit,
      Sign.underscore, Sign.hyphen, Bool.or_eq_false_iff, Bool.and_eq_false_iff,
      decide_eq_false_iff_not, beq_eq_false_iff_ne]
    omega
  have inline : ∀ sign, Sign.isSurrogate sign = true → isInline sign = false := by
    intro sign surrogate
    simp only [Sign.isSurrogate, Bool.and_eq_true, decide_eq_true_eq] at surrogate
    simp only [isInline, Sign.space, Sign.tab, Bool.or_eq_false_iff, beq_eq_false_iff_ne]
    omega
  rw [Text.hasSurrogate_dropWhile inline, Text.hasSurrogate_dropWhile tag]

theorem hasSurrogate_afterOpening {reply body : Text} (opened : afterOpening? reply = some body) :
    body.hasSurrogate = reply.hasSurrogate := by
  rw [afterOpening?] at opened
  split at opened
  · cases opened
  · rename_i rest behind
    have same := hasSurrogate_afterTag rest
    rw [Text.eq_append_of_after? behind, Text.hasSurrogate_append, ← same]
    split at opened
    · rename_i none
      obtain rfl := Option.some.inj opened
      rw [none]
      rfl
    · rename_i line
      obtain rfl := Option.some.inj opened
      rw [line, Text.hasSurrogate_cons_of_lt (by decide)]
      rfl
    · cases opened

theorem hasSurrogate_beforeClosing (body : Text) :
    (beforeClosing body).hasSurrogate = body.hasSurrogate := by
  rw [beforeClosing]
  cases closed : body.stripEnd.dropEnding? fence with
  | none => rfl
  | some front =>
      have trimmed := Text.hasSurrogate_stripEnd body
      rw [Text.eq_append_of_dropEnding? closed, Text.hasSurrogate_append] at trimmed
      have plain : fence.hasSurrogate = false := by decide
      rw [Option.getD_some, ← trimmed, plain, Bool.or_false]

/-- Fences and white space are no surrogates. -/
theorem hasSurrogate_unfence (reply : Text) :
    (unfence reply).hasSurrogate = reply.hasSurrogate := by
  rw [unfence]
  cases opened : afterOpening? reply.strip with
  | none => exact Text.hasSurrogate_strip reply
  | some body =>
      dsimp only
      rw [Text.hasSurrogate_strip, hasSurrogate_beforeClosing, hasSurrogate_afterOpening opened,
        Text.hasSurrogate_strip]

/-- The text within the fences stands in the reply. -/
theorem unfence_isInfix (reply : Text) : unfence reply <:+: reply := by
  rw [unfence]
  cases opened : afterOpening? reply.strip with
  | none => exact reply.strip_isInfix
  | some body =>
      have behind : body <:+ reply.strip := by
        rw [afterOpening?] at opened
        split at opened
        · cases opened
        · rename_i rest found
          have later : (rest.dropWhile isTag).dropWhile isInline <:+ reply.strip :=
            ((List.dropWhile_suffix _).trans (List.dropWhile_suffix _)).trans
              (Text.after?_suffix found)
          split at opened
          · obtain rfl := Option.some.inj opened
            exact List.nil_suffix
          · rename_i line
            obtain rfl := Option.some.inj opened
            exact (List.suffix_cons _ _).trans (line ▸ later)
          · cases opened
      have before : beforeClosing body <:+: body := by
        rw [beforeClosing]
        cases closed : body.stripEnd.dropEnding? fence with
        | none => exact List.infix_rfl
        | some front =>
            have start : front <+: body.stripEnd :=
              ⟨fence, (Text.eq_append_of_dropEnding? closed).symm⟩
            exact (start.trans (List.rdropWhile_prefix Sign.isBlank body)).isInfix
      exact (((Text.strip_isInfix _).trans before).trans behind.isInfix).trans reply.strip_isInfix

/-- White space around a reply makes no difference. -/
theorem unfence_strip (reply : Text) : unfence reply.strip = unfence reply := by
  rw [unfence, unfence, Text.strip_eq_self reply.trimmed_strip]

/-! ## (2) Numerals -/

/-- The number of tasks of an object, which is otherwise as it should be up to there, is spelled
with more digits than are read. -/
structure LongCount (fields : List (Text × Json)) : Prop where
  /-- Every required field is given. -/
  given : ∀ name ∈ requiredFields, Given fields name
  /-- The fields that are shown as texts are neither lists nor objects. -/
  scalar : ∀ name ∈ scalarFields, ∀ value, Json.fieldIn? name fields = some value → IsScalar value
  /-- The number of tasks is a text that begins with the digits. -/
  long : ∃ spelled digits, Json.fieldIn? "numberOfTasks" fields = some (.text spelled) ∧
    leadingIntegerOf spelled = .error (.longNumeral digits)

/-- A reply has a numeral with more digits than are read, at a place where it is read. -/
inductive Overlong (reply : Text) : Prop
  /-- The numeral is a number. -/
  | numeral {digits : Nat} (read : Json.read (unfence reply) = .error (.longNumeral digits))
  /-- The numeral is the number of tasks, given as a text. -/
  | count {fields : List (Text × Json)} (read : Json.read (unfence reply) = .ok (.object fields))
    (long : LongCount fields)

/-- Only what a text begins with can have too many digits. -/
theorem exists_of_leadingInteger_error {value : Json} {failure : Failure}
    (h : leadingInteger value = .error failure) :
    ∃ spelled digits, value = .text spelled ∧
      leadingIntegerOf spelled = .error (.longNumeral digits) ∧ failure = .longNumeral digits := by
  cases value with
  | text spelled =>
      have read : leadingIntegerOf spelled = .error failure := h
      obtain ⟨digits, rfl⟩ : ∃ digits, failure = .longNumeral digits := by
        grind [leadingIntegerOf]
      exact ⟨spelled, digits, rfl, read, rfl⟩
  | null | bool _ | int _ | float _ | list _ | object _ => cases h

/-- Digits that are read are not too many. -/
theorem not_longCount_of_leadingInteger {fields : List (Text × Json)} {value : Json}
    {number : Option Int} (found : Json.fieldIn? "numberOfTasks" fields = some value)
    (read : leadingInteger value = .ok number) : ¬LongCount fields := by
  rintro ⟨-, -, spelled, digits, again, long⟩
  obtain rfl := Option.some.inj (found.symm.trans again)
  cases read.symm.trans long

/-- A reply that is overlong has more digits in a row than are read, or the text that gives its
number of tasks begins with so many. -/
theorem Overlong.hasLongRun {reply : Text} (overlong : Overlong reply) :
    Json.HasLongRun reply ∨
      ∃ fields, Json.read (unfence reply) = .ok (.object fields) ∧ LongCount fields := by
  rcases overlong with read | ⟨read, long⟩
  · exact .inl ((Json.hasLongRun_of_read read).of_isInfix (unfence_isInfix reply))
  · exact .inr ⟨_, read, long⟩

/-- A reply of nothing but too many digits is overlong. -/
theorem overlong_of_digits {sign : Nat} {others : Text} (nonzero : sign ≠ Sign.zero)
    (digits : ∀ digit ∈ sign :: others, Sign.isDigit digit = true)
    (many : Json.numeralLimit ≤ others.length) : Overlong (sign :: others) := by
  have solid : ∀ digit, Sign.isDigit digit = true → Sign.isBlank digit = false := by
    intro digit h
    rw [Sign.isDigit, Bool.and_eq_true, decide_eq_true_eq, decide_eq_true_eq] at h
    obtain ⟨least, most⟩ := h
    interval_cases digit <;> rfl
  have trimmed : Text.Trimmed (sign :: others) :=
    ⟨fun digit h => solid digit (digits digit (List.mem_of_mem_head? h)),
      fun digit h => solid digit (digits digit (List.mem_of_getLast? h))⟩
  have unopened : afterOpening? (sign :: others) = none := by
    rw [afterOpening?]
    cases found : Text.after? (sign :: others) fence with
    | none => rfl
    | some rest =>
        have backtick := (List.cons.inj (Text.eq_append_of_after? found)).1
        rw [backtick] at digits
        cases digits _ List.mem_cons_self
  have same : unfence (sign :: others) = sign :: others := by
    rw [unfence, Text.strip_eq_self trimmed, unopened]
  refine .numeral (same.symm ▸ Json.read_of_digits (digits _ List.mem_cons_self) nonzero ?_ many)
  exact fun digit member => digits digit (List.mem_cons_of_mem _ member)

/-! ## (3) Causes of rejection -/

/-- What is said of a cause has an encoded form. -/
structure IsPlain (cause : Rejection.Cause) : Prop where
  /-- The message has one. -/
  message : cause.message.hasSurrogate = false
  /-- So have the names of missing fields. -/
  names : ∀ names, cause = .missing names → ∀ name ∈ names, Text.hasSurrogate name = false

section Causes

theorem isPlain_empty : IsPlain .empty where
  message := by decide
  names _ h := by cases h

theorem isPlain_malformed (source : Text) (cause : Json.Cause) (remaining : Nat) :
    IsPlain (.malformed source cause remaining) where
  message := by
    have said : cause.message.hasSurrogate = false := by cases cause <;> decide
    simp only [Rejection.Cause.message, Json.Fault.message, Text.hasSurrogate_append, said,
      Text.hasSurrogate_ofNat]
    decide
  names _ h := by cases h

theorem isPlain_notObject (value : Json) : IsPlain (.notObject value.kindName) where
  message := by
    have kind : value.kindName.hasSurrogate = false := by
      cases value <;> rw [Json.kindName] <;> decide
    simp only [Rejection.Cause.message, Text.hasSurrogate_append, kind]
    decide
  names _ h := by cases h

theorem isPlain_missing (fields : List (Text × Json)) :
    IsPlain (.missing (missingFields fields)) := by
  have required : ∀ name ∈ requiredFields, Text.hasSurrogate name = false := by decide
  have plain : ∀ name ∈ missingFields fields, Text.hasSurrogate name = false :=
    fun name member => required name (List.mem_filter.mp member).1
  refine ⟨?_, ?_⟩
  · rw [Rejection.Cause.message, Rejection.missingMessage, Text.hasSurrogate_append,
      Text.hasSurrogate_joinWith (by decide) plain]
    decide
  · rintro _ ⟨⟩
    exact plain

theorem isPlain_invalid {name reason : Text} (hname : name.hasSurrogate = false)
    (hreason : reason.hasSurrogate = false) : IsPlain (.invalid name reason) where
  message := by
    simp only [Rejection.Cause.message, Rejection.invalidMessage, Text.hasSurrogate_append, hname,
      hreason]
    decide
  names _ h := by cases h

theorem isPlain_deficit (expected actual : Nat) : IsPlain (.deficit expected actual) where
  message := by
    simp only [Rejection.Cause.message, Rejection.deficitMessage, Text.hasSurrogate_append,
      Text.hasSurrogate_ofNat]
    decide
  names _ h := by cases h

end Causes

/-! ## (4) The steps of the validation -/

/-- An outcome is a value or the rejection of a text for a cause of which something plain is
said. -/
def Rejects {α : Type} (unfenced : Text) (outcome : Outcome α) : Prop :=
  ∀ failure, outcome = .error failure →
    ∃ cause, failure = .rejected ⟨cause, .text unfenced⟩ ∧ IsPlain cause

section Steps

variable {fields : List (Text × Json)} {unfenced name : Text}

/-- A given field that is not used as a text is rejected, and is a list or an object. -/
theorem rejects_scalar (hname : name.hasSurrogate = false) :
    Rejects unfenced (scalar fields name unfenced) := by
  intro failure h
  rw [scalar] at h
  split at h
  · cases h
  · cases h
    exact ⟨_, rfl, isPlain_invalid hname (by decide)⟩
  · cases h
    exact ⟨_, rfl, isPlain_invalid hname (by decide)⟩
  · cases h

theorem rejects_tasksFrom (position : Nat) (items : List Json) :
    Rejects unfenced (tasksFrom unfenced position items) := by
  induction items generalizing position with
  | nil =>
      intro failure h
      cases h
  | cons item items ih =>
      intro failure h
      cases item with
      | object fields =>
          rw [tasksFrom] at h
          cases rest : tasksFrom unfenced (position + 1) items with
          | ok _ =>
              rw [rest] at h
              cases h
          | error other =>
              rw [rest] at h
              cases h
              exact ih (position + 1) _ rest
      | null | bool _ | int _ | float _ | text _ | list _ =>
          cases h
          refine ⟨_, rfl, isPlain_invalid (by decide) ?_⟩
          simp only [Text.hasSurrogate_append, Text.hasSurrogate_ofNat]
          decide

theorem rejects_tasks (value : Json) : Rejects unfenced (tasks unfenced value) := by
  intro failure h
  cases value with
  | list items => exact rejects_tasksFrom 1 items failure h
  | null | bool _ | int _ | float _ | text _ | object _ =>
      cases h
      exact ⟨_, rfl, isPlain_invalid (by decide) (by decide)⟩

/-- A number of tasks that is not announced is rejected if it can be read. -/
theorem rejects_announced {value : Json} {number : Option Int}
    (read : leadingInteger value = .ok number) : Rejects unfenced (announced unfenced value) := by
  intro failure h
  rw [announced, read] at h
  have said : (("not a non-negative integer: " : Text) ++ value.literal).hasSurrogate = false := by
    rw [Text.hasSurrogate_append, Json.hasSurrogate_literal]
    decide
  rcases number with _ | (number | number)
  · cases h
    exact ⟨_, rfl, isPlain_invalid (by decide) said⟩
  · cases h
  · cases h
    exact ⟨_, rfl, isPlain_invalid (by decide) said⟩

end Steps

/-! ## (5) The whole validation -/

/-- What stops the fields of a reply from giving an assignment: a cause of rejection, or a number of
tasks with too many digits. -/
inductive Stopped (unfenced : Text) (fields : List (Text × Json)) : Failure → Prop
  /-- The reply is rejected, whatever its number of tasks is. -/
  | rejected {cause : Rejection.Cause} (plain : IsPlain cause) (short : ¬LongCount fields) :
    Stopped unfenced fields (.rejected ⟨cause, .text unfenced⟩)
  /-- The number of tasks has too many digits. -/
  | long {digits : Nat} (long : LongCount fields) : Stopped unfenced fields (.longNumeral digits)

/-- A step that rejects stops the fields if the number of tasks is not too long. -/
theorem Rejects.stopped {α : Type} {unfenced : Text} {fields : List (Text × Json)}
    {outcome : Outcome α} {failure : Failure} (rejects : Rejects unfenced outcome)
    (failed : outcome = .error failure) (short : ¬LongCount fields) :
    Stopped unfenced fields failure := by
  obtain ⟨cause, rfl, plain⟩ := rejects failure failed
  exact .rejected plain short

section Given

variable {unfenced : Text} {fields : List (Text × Json)} {failure : Failure}
  (given : ∀ name ∈ requiredFields, Given fields name)

include given

/-- A field that is not used as a text is a list or an object, so that the number of tasks is not
looked at. -/
theorem stopped_of_scalar {name : Text} (member : name ∈ scalarFields)
    (failed : scalar fields name unfenced = .error failure) : Stopped unfenced fields failure := by
  have plain : ∀ name ∈ scalarFields, Text.hasSurrogate name = false := by decide
  refine (rejects_scalar (plain name member)).stopped failed fun long => ?_
  have own := given name (scalarFields_subset member)
  obtain ⟨value, found, -⟩ := id own
  have used := (@scalar_eq_ok_iff fields name unfenced value own).mpr
    ⟨found, long.scalar name member value found⟩
  cases failed.symm.trans used

/-- Fields that are used as texts are neither lists nor objects. -/
theorem isScalar_of_scalar {name : Text} {value : Json} (member : name ∈ scalarFields)
    (used : scalar fields name unfenced = .ok value) :
    ∀ other, Json.fieldIn? name fields = some other → IsScalar other := by
  intro other found
  obtain ⟨same, scalar⟩ := (scalar_eq_ok_iff (given name (scalarFields_subset member))).mp used
  obtain rfl := Option.some.inj (same.symm.trans found)
  exact scalar

end Given

/-- There is nothing else that stops them. -/
theorem stopped_of_assemble {unfenced : Text} {fields : List (Text × Json)} {failure : Failure}
    (failed : assemble unfenced fields = .error failure) : Stopped unfenced fields failure := by
  simp only [assemble, Outcome.unless_eq_error_iff, Outcome.bind_eq_error_iff] at failed
  rcases failed with ⟨missing, rfl⟩ | ⟨missing, failed⟩
  · refine .rejected (isPlain_missing fields) fun long => ?_
    rw [missingFields_eq_nil_iff.mpr long.given] at missing
    cases missing
  have given := missingFields_eq_nil_iff.mp (by simpa using missing)
  rcases failed with failed | ⟨title, htitle, failed | ⟨deadline, hdeadline, failed |
    ⟨marks, hmarks, failed | ⟨criteria, hcriteria, failed⟩⟩⟩⟩
  · exact stopped_of_scalar given (by decide) failed
  · exact stopped_of_scalar given (by decide) failed
  · exact stopped_of_scalar given (by decide) failed
  · exact stopped_of_scalar given (by decide) failed
  -- only now the number of tasks is looked at
  obtain ⟨number, found, -⟩ := given "numberOfTasks" (by decide)
  rw [found, Option.getD_some] at failed
  cases read : leadingInteger number with
  | error other =>
      obtain ⟨spelled, digits, rfl, long, rfl⟩ := exists_of_leadingInteger_error read
      have unread : announced unfenced (.text spelled) = .error (.longNumeral digits) := by
        rw [announced, read]
        rfl
      rcases failed with failed | ⟨expected, counted, -⟩
      · obtain rfl := Except.error.inj (unread.symm.trans failed)
        refine .long ⟨given, ?_, spelled, digits, found, long⟩
        simp only [scalarFields, List.forall_mem_cons, List.not_mem_nil, false_implies,
          implies_true, and_true]
        exact ⟨isScalar_of_scalar given (by decide) htitle,
          isScalar_of_scalar given (by decide) hdeadline,
          isScalar_of_scalar given (by decide) hmarks,
          isScalar_of_scalar given (by decide) hcriteria⟩
      · cases unread.symm.trans counted
  | ok count =>
      have short := not_longCount_of_leadingInteger found read
      rcases failed with failed | ⟨expected, -, failed | ⟨listed, -, failed⟩⟩
      · exact (rejects_announced read).stopped failed short
      · exact (rejects_tasks _).stopped failed short
      · rcases failed with ⟨-, rfl⟩ | ⟨-, failed⟩
        · exact .rejected (isPlain_deficit _ _) short
        · cases failed

/-- What becomes of a reply. -/
inductive Judged (reply : Text) : Outcome Accepted → Prop
  /-- It is accepted. -/
  | accepted {accepted : Accepted} (read : ¬Overlong reply) : Judged reply (.ok accepted)
  /-- It is rejected, together with a text that is as plain as the reply is. -/
  | rejected {cause : Rejection.Cause} {source : Text} (read : ¬Overlong reply)
    (plain : IsPlain cause) (shown : source.hasSurrogate = reply.hasSurrogate) :
    Judged reply (.error (.rejected ⟨cause, .text source⟩))
  /-- It has a numeral with too many digits. -/
  | overlong {digits : Nat} (overlong : Overlong reply) :
    Judged reply (.error (.longNumeral digits))

/-- What is read without such a numeral is not overlong, unless the count is. -/
theorem not_overlong_of_read {reply : Text} {read : Except Json.Fault Json}
    (h : Json.read (unfence reply) = read)
    (numeral : ∀ digits, read ≠ .error (.longNumeral digits))
    (count : ∀ fields, read = .ok (.object fields) → ¬LongCount fields) : ¬Overlong reply := by
  rintro (long | ⟨same, long⟩)
  · exact numeral _ (h.symm.trans long)
  · exact count _ (h.symm.trans same) long

/-- Nothing else becomes of a reply. -/
theorem judged_validate (reply : Text) : Judged reply (validate (.text reply)) := by
  have shown := hasSurrogate_unfence reply
  have steps : validate (.text reply) =
      decodeUnfenced (unfence reply) (.text reply) >>= assemble (unfence reply) := rfl
  rw [steps, decodeUnfenced]
  cases read : Json.read (unfence reply) with
  | error fault =>
      by_cases empty : (unfence reply).isEmpty
      · rw [if_pos empty]
        refine .rejected (not_overlong_of_read read ?_ (by rintro _ ⟨⟩)) isPlain_empty rfl
        rintro digits long
        rw [List.isEmpty_iff.mp empty] at read
        cases read.trans long
      · rw [if_neg empty]
        cases fault with
        | malformed cause remaining =>
            exact .rejected (not_overlong_of_read read (by rintro _ ⟨⟩) (by rintro _ ⟨⟩))
              (isPlain_malformed _ cause remaining) shown
        | longNumeral digits => exact .overlong (.numeral read)
  | ok value =>
      have filled : ¬(unfence reply).isEmpty := by
        intro empty
        rw [List.isEmpty_iff.mp empty] at read
        cases read
      rw [if_neg filled]
      cases value with
      | object fields =>
          change Judged reply (assemble (unfence reply) fields)
          cases assembled : assemble (unfence reply) fields with
          | ok accepted =>
              obtain ⟨expected, listed, describes, -⟩ := describes_of_assemble assembled
              obtain ⟨number, found, counted⟩ := describes.counted
              refine .accepted (not_overlong_of_read read (by rintro _ ⟨⟩) ?_)
              rintro _ ⟨⟩
              exact not_longCount_of_leadingInteger found counted
          | error failure =>
              cases stopped_of_assemble assembled with
              | rejected plain short =>
                  refine .rejected (not_overlong_of_read read (by rintro _ ⟨⟩) ?_) plain shown
                  rintro _ ⟨⟩
                  exact short
              | long long => exact .overlong (.count read long)
      | null | bool _ | int _ | float _ | text _ | list _ =>
          exact .rejected (not_overlong_of_read read (by rintro _ ⟨⟩) (by rintro _ ⟨⟩))
            (isPlain_notObject _) shown

/-- A reply is accepted, or rejected for a cause of one of five kinds, unless it is overlong. -/
theorem accepted_or_rejected_iff (reply : Text) :
    (∃ accepted, validate (.text reply) = .ok accepted) ∨
        (∃ rejection, validate (.text reply) = .error (.rejected rejection) ∧
          rejection.cause.kind ≠ .general) ↔ ¬Overlong reply := by
  have judged := judged_validate reply
  generalize validate (.text reply) = outcome at judged ⊢
  cases judged with
  | @accepted accepted read => exact iff_of_true (.inl ⟨accepted, rfl⟩) read
  | @rejected cause source read =>
      have kind : cause.kind ≠ .general := by
        intro h
        cases cause <;> cases h
      exact iff_of_true (.inr ⟨_, rfl, kind⟩) read
  | overlong long => exact iff_of_false (by rintro (⟨_, ⟨⟩⟩ | ⟨_, ⟨⟩, -⟩)) (not_not_intro long)

end Reply

end Coursework
