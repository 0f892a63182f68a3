import Coursework.Model.Prompt
import Coursework.Proofs.Json.Quoted
import Coursework.Proofs.Json.RoundTrip

/-! # The object shown in a prompt

The title, the deadline and a number of tasks in words are put between quotes as they are. So the
object that the model is shown is the one that is meant exactly if none of them has a sign that
needs an escape.

* **`Prompt.Shows`** tells what object is meant, **`Prompt.Splices`** when it is the one shown.
* **`Prompt.shows_ofBrief`** is the main statement. One half is a count: the texts that are read
  have at most as many signs that need an escape as there are backslashes in those that were put
  in, so these had no quotes and no control characters; and where they end is then known.
-/

namespace Coursework

/-! ## (1) Counting escapes -/

namespace Json

/-- Backslashes and quotes need an escape. -/
theorem count_add_count_le (text : Text) :
    text.count Sign.backslash + text.count Sign.doubleQuote ≤ escapesIn text := by
  induction text with
  | nil => exact Nat.le_refl 0
  | cons sign text ih =>
      rw [escapesIn] at ih ⊢
      rw [List.count_cons, List.count_cons, List.countP_cons]
      by_cases backslash : sign = Sign.backslash
      · subst backslash
        have needed : (! standsForItself Sign.backslash) = true := by decide
        simp only [needed, beq_self_eq_true, if_true,
          show (Sign.backslash == Sign.doubleQuote) = false by decide, Bool.false_eq_true,
          if_false]
        omega
      · by_cases quote : sign = Sign.doubleQuote
        · subst quote
          have needed : (! standsForItself Sign.doubleQuote) = true := by decide
          simp only [needed, beq_self_eq_true, if_true,
            show (Sign.doubleQuote == Sign.backslash) = false by decide, Bool.false_eq_true,
            if_false]
          omega
        · simp only [beq_iff_eq, backslash, quote, if_false]
          omega

/-- A field that is found is one of the fields, and the others are found as before. -/
theorem exists_fields_without {fields : List (Text × Json)} {name : Text} {value : Json}
    (found : fieldIn? name fields = some value) :
    ∃ others, escapesOfFields fields = escapes value + escapesOfFields others ∧
      ∀ other, other ≠ name → fieldIn? other others = fieldIn? other fields := by
  induction fields with
  | nil => cases found
  | cons field fields ih =>
      obtain ⟨key, own⟩ := field
      rw [fieldIn?] at found
      split at found
      · rename_i same
        cases found
        refine ⟨fields, rfl, fun other different => ?_⟩
        rw [fieldIn?, if_neg (same ▸ Ne.symm different)]
      · obtain ⟨others, total, kept⟩ := ih found
        refine ⟨(key, own) :: others, ?_, fun other different => ?_⟩
        · rw [escapesOfFields, escapesOfFields, total]
          omega
        · rw [fieldIn?, fieldIn?, kept other different]

end Json

namespace Prompt

/-! ## (2) Lines -/

/-- A field on a line of its own, and what follows its comma. -/
def member (name value rest : Text) : Text :=
  Json.writeText name ++ Sign.colon :: Sign.space ::
    (value ++ Sign.comma :: Sign.newline :: Sign.space :: Sign.space :: rest)

/-- A text between quotes as it is. -/
def quoted (text : Text) : Text := Sign.doubleQuote :: text ++ [Sign.doubleQuote]

/-- The task that is shown. -/
def sampleTask : Json :=
  .object [("description", .text "<task details>"), ("weightage", .text "<task weightage>")]

/-- The field of the tasks, which is the same for every brief, and the end of the object. -/
def sampleTasks : Text :=
  Json.writeText "tasks" ++ Sign.colon :: Sign.space :: Sign.leftBracket ::
    (("\n    " : Text) ++ (Json.write .compact sampleTask ++ ("\n  ]\n\x7d" : Text)))

/-- The lines of the object, with a title, a deadline and a number of tasks put in. -/
def sampleLines (title deadline : Text) (count : TaskCount) : Text :=
  member "title" (quoted title) (member "deadline" (quoted deadline)
    (member "totalMarksWeightage" (quoted "<overall marks>")
      (member "evaluationCriteria" (quoted "<evaluation criteria>")
        (member "numberOfTasks" (templateCount count) sampleTasks))))

set_option maxRecDepth 4096 in
/-- The object that is shown, line by line. -/
theorem responseTemplate_eq (brief : Brief) :
    responseTemplate brief = Sign.leftBrace :: Sign.newline :: Sign.space :: Sign.space ::
      sampleLines (title brief) (deadline brief) (taskCount brief) := by
  simp only [responseTemplate, sampleLines, member, quoted, List.append_assoc, List.cons_append]
  rfl

theorem skip_member (name value rest : Text) :
    Json.skip (member name value rest) = member name value rest := Json.skip_cons (by decide) _

theorem skip_sampleTasks : Json.skip sampleTasks = sampleTasks := Json.skip_cons (by decide) _

section Member

open Json

variable {steps : Nat} {before : List (Text × Json)} {name value rest : Text}

/-- A field is read, and then the others. -/
theorem readMembers_member (scalar : Text.IsScalar name) (enough : name.length < steps)
    (begins : ∀ behind, skip (value ++ behind) = value ++ behind)
    (follows : skip rest = rest) {own : Json}
    (read : readValue steps
        (value ++ Sign.comma :: Sign.newline :: Sign.space :: Sign.space :: rest) =
      .ok (own, Sign.comma :: Sign.newline :: Sign.space :: Sign.space :: rest)) :
    readMembers (steps + 1) before (member name value rest) =
      readMembers steps (insertField before name own) rest := by
  have spaced (behind : Text) : skip (Sign.space :: (value ++ behind)) = value ++ behind :=
    (List.dropWhile_cons_of_pos (by decide)).trans (begins behind)
  have line : skip (Sign.newline :: Sign.space :: Sign.space :: rest) = rest := follows
  rw [member, readMembers_comma scalar enough (by rw [spaced]; exact read)
    (skip_cons (by decide) _), line]

/-- If the fields are read, so is the value of the first. -/
theorem exists_of_readMembers_member (scalar : Text.IsScalar name) (enough : name.length < steps)
    (begins : ∀ behind, skip (value ++ behind) = value ++ behind)
    {found : List (Text × Json) × Text}
    (read : readMembers (steps + 1) before (member name value rest) = .ok found) :
    ∃ own, readValue steps
      (value ++ Sign.comma :: Sign.newline :: Sign.space :: Sign.space :: rest) = .ok own := by
  have spaced (behind : Text) : skip (Sign.space :: (value ++ behind)) = value ++ behind :=
    (List.dropWhile_cons_of_pos (by decide)).trans (begins behind)
  have named := readText_written scalar (member name value rest) enough
    (Sign.colon :: Sign.space ::
      (value ++ Sign.comma :: Sign.newline :: Sign.space :: Sign.space :: rest))
  rw [member, writeText_append] at read named
  simp only [readMembers, named, skip_cons (show isSeparator Sign.colon = false by decide), spaced]
    at read
  split at read
  · cases read
  · rename_i own found
    exact ⟨_, found⟩

end Member

/-! ## (3) Texts between quotes -/

section Quoted

open Json

variable {steps : Nat} {before : List (Text × Json)} {name text rest behind : Text}

theorem skip_quoted (text behind : Text) :
    skip (quoted text ++ behind) = quoted text ++ behind := skip_cons (by decide) _

theorem readValue_quoted (steps : Nat) (text behind : Text) :
    readValue (steps + 1) (quoted text ++ behind) =
      (readText (quoted text ++ behind) steps (text ++ Sign.doubleQuote :: behind)).map
        fun (value, rest) => (.text value, rest) := by
  have shape : quoted text ++ behind =
      Sign.doubleQuote :: (text ++ Sign.doubleQuote :: behind) := by
    simp [quoted]
  rw [shape, readValue]

/-- A text of signs that stand for themselves is read as it is. -/
theorem readMembers_quoted (scalar : Text.IsScalar name) (named : name.length < steps + 1)
    (follows : skip rest = rest) (verbatim : IsVerbatim text) (enough : text.length < steps) :
    readMembers (steps + 2) before (member name (quoted text) rest) =
      readMembers (steps + 1) (insertField before name (.text text)) rest :=
  readMembers_member scalar named (skip_quoted text) follows
    (by rw [readValue_quoted, readText_verbatim verbatim _ enough]; rfl)

/-- A text without quotes ends at the quote before a comma and a line end. -/
theorem eq_of_closing {raw : Text} (unquoted : Sign.doubleQuote ∉ text) (printed : Printed raw)
    (same : text ++ Sign.doubleQuote :: Sign.comma :: Sign.newline :: behind =
      raw ++ Sign.doubleQuote :: rest) :
    raw = text ∧ rest = Sign.comma :: Sign.newline :: behind := by
  rcases List.append_eq_append_iff.mp same with ⟨more, rfl, tail⟩ | ⟨more, rfl, tail⟩
  · match more with
    | [] => exact ⟨List.append_nil _, (List.cons.inj tail).2.symm⟩
    | [_] | [_, _] => simp at tail
    | _ :: _ :: third :: _ =>
        -- what is read would go on over the line end
        have control : third = Sign.newline := by
          simp only [List.cons_append, List.cons.injEq] at tail
          exact tail.2.2.1.symm
        exact absurd (printed third (by simp)) (by rw [control]; decide)
  · match more with
    | [] => exact ⟨(List.append_nil _).symm, (List.cons.inj tail).2⟩
    | sign :: _ =>
        rw [(List.cons.inj tail).1] at unquoted
        exact absurd (by simp) unquoted

/-- If a text without quotes is read, then up to its quote, and the others follow. -/
theorem exists_readMembers_quoted (scalar : Text.IsScalar name) (named : name.length < steps + 1)
    (follows : skip rest = rest) (unquoted : Sign.doubleQuote ∉ text)
    {found : List (Text × Json) × Text}
    (read : readMembers (steps + 2) before (member name (quoted text) rest) = .ok found) :
    ∃ value, Spells text value ∧
      readMembers (steps + 1) (insertField before name (.text value)) rest = .ok found := by
  obtain ⟨_, own⟩ := exists_of_readMembers_member scalar named (skip_quoted text) read
  rw [readValue_quoted] at own
  obtain ⟨⟨value, after⟩, inner, -⟩ := Outcome.map_eq_ok_iff.mp own
  obtain ⟨raw, same, spells⟩ := exists_readText _ _ _ value after inner
  obtain ⟨rfl, rfl⟩ := eq_of_closing unquoted spells.printed same
  refine ⟨value, spells, ?_⟩
  rw [← read]
  exact (readMembers_member scalar named (skip_quoted raw) follows
    (by rw [readValue_quoted, inner]; rfl)).symm

end Quoted

/-! ## (4) The number of tasks -/

section Count

open Json

variable {steps : Nat} {before : List (Text × Json)} {rest : Text}

/-- A number of tasks can be put in as it is. -/
def Fits : TaskCount → Prop
  | .text value => IsVerbatim value
  | .int value => Short value

/-- What is read where a number of tasks was put in. -/
def ReadAs : TaskCount → Json → Prop
  | .text value, found => ∃ spelled, found = .text spelled ∧ Spells value spelled
  | .int value, found => found = .int value ∧ Short value

theorem skip_ofInt (number : Int) (behind : Text) :
    skip (Text.ofInt number ++ behind) = Text.ofInt number ++ behind := by
  have first (number : Nat) : ∃ digit others, Text.ofNat number = digit :: others ∧
      isSeparator digit = false := by
    obtain ⟨digit, others, numeral⟩ := List.exists_cons_of_ne_nil (Text.ofNat_ne_nil number)
    have isDigit : Sign.isDigit digit = true :=
      Text.isDigit_of_mem_ofNat (numeral ▸ List.mem_cons_self)
    refine ⟨digit, others, numeral, ?_⟩
    simp only [Sign.isDigit, Bool.and_eq_true, decide_eq_true_eq] at isDigit
    simp only [isSeparator, Bool.or_eq_false_iff, beq_eq_false_iff_ne, Sign.space, Sign.tab,
      Sign.newline, Sign.carriageReturn]
    omega
  cases number with
  | ofNat number =>
      obtain ⟨digit, others, numeral, own⟩ := first number
      rw [Text.ofInt, numeral]
      exact skip_cons own _
  | negSucc number => exact skip_cons (by decide) _

theorem readMembers_templateCount {count : TaskCount} (fits : Fits count)
    (enough : (templateCount count).length < steps) (long : 13 < steps)
    (follows : skip rest = rest) :
    readMembers (steps + 2) before (member "numberOfTasks" (templateCount count) rest) =
      readMembers (steps + 1) (insertField before "numberOfTasks" count.toJson) rest := by
  have scalar : Text.IsScalar "numberOfTasks" := by decide
  have named : ("numberOfTasks" : Text).length < steps + 1 := Nat.lt_succ_of_lt long
  cases count with
  | text value =>
      have shorter : value.length < steps := by
        simp only [templateCount, List.length_append, List.length_cons] at enough
        omega
      exact readMembers_quoted scalar named follows fits shorter
  | int value =>
      exact readMembers_member scalar named (skip_ofInt value) follows
        ((closed_cons (by decide) _).readValue_ofInt steps fits)

theorem exists_readMembers_templateCount {count : TaskCount} (long : 13 < steps)
    (follows : skip rest = rest)
    (unquoted : ∀ value, count = .text value → Sign.doubleQuote ∉ value)
    {found : List (Text × Json) × Text}
    (read : readMembers (steps + 2) before
      (member "numberOfTasks" (templateCount count) rest) = .ok found) :
    ∃ own, ReadAs count own ∧
      readMembers (steps + 1) (insertField before "numberOfTasks" own) rest = .ok found := by
  have scalar : Text.IsScalar "numberOfTasks" := by decide
  have named : ("numberOfTasks" : Text).length < steps + 1 := Nat.lt_succ_of_lt long
  cases count with
  | text value =>
      obtain ⟨spelled, spells, others⟩ :=
        exists_readMembers_quoted scalar named follows (unquoted value rfl) read
      exact ⟨.text spelled, ⟨spelled, rfl, spells⟩, others⟩
  | int value =>
      obtain ⟨_, own⟩ := exists_of_readMembers_member scalar named (skip_ofInt value) read
      have closed : Closed (Sign.comma :: Sign.newline :: Sign.space :: Sign.space :: rest) :=
        closed_cons (by decide) _
      have short := closed.short_of_readValue own
      refine ⟨.int value, ⟨rfl, short⟩, ?_⟩
      rw [← read]
      exact (readMembers_member scalar named (skip_ofInt value) follows
        (closed.readValue_ofInt steps short)).symm

end Count

/-! ## (5) The object -/

open Json

/-- The fields that are shown, with what stands for the title, the deadline and the number of
tasks. -/
def sampleFields (title deadline : Text) (count : Json) : List (Text × Json) :=
  [("title", .text title), ("deadline", .text deadline),
    ("totalMarksWeightage", .text "<overall marks>"),
    ("evaluationCriteria", .text "<evaluation criteria>"), ("numberOfTasks", count),
    ("tasks", .list [sampleTask])]

theorem legible_sampleTask : Legible sampleTask := by
  refine .object (by decide) (by decide) (List.forall_mem_cons.mpr ⟨.text (by decide), ?_⟩)
  exact List.forall_mem_cons.mpr ⟨.text (by decide), List.forall_mem_nil _⟩

theorem readMembers_sampleTasks {steps : Nat} (enough : 66 ≤ steps)
    (before : List (Text × Json)) :
    readMembers (steps + 3) before sampleTasks =
      .ok (insertField before "tasks" (.list [sampleTask]), []) := by
  have task : readValue steps (write .compact sampleTask ++ ("\n  ]\n\x7d" : Text)) =
      .ok (sampleTask, "\n  ]\n\x7d") :=
    legible_sampleTask.readsBack .compact 0 steps _ (closed_cons (by decide) _)
      (Nat.le_trans (by decide) enough)
  have begins : skip (("\n    " : Text) ++ (write .compact sampleTask ++ ("\n  ]\n\x7d" : Text))) =
      write .compact sampleTask ++ ("\n  ]\n\x7d" : Text) := by
    rw [skip_append (by decide)]
    exact legible_sampleTask.skip_writeAt .compact 0 _
  have list : readValue (steps + 2) (Sign.leftBracket ::
      (("\n    " : Text) ++ (write .compact sampleTask ++ ("\n  ]\n\x7d" : Text)))) =
      .ok (.list [sampleTask], "\n\x7d") := by
    rw [readValue_leftBracket, begins, readElements_last task (by rfl)]
    · rfl
    · rw [begins]
      intro others same
      cases same
  exact readMembers_last (by decide) (show 5 < _ by omega) list rfl

section Lines

variable {title deadline : Text} {count : TaskCount} {steps : Nat} (long : 66 ≤ steps)

include long

/-- The lines are read as the fields that are meant, if what was put in can be put in. -/
theorem readMembers_sampleLines (titled : IsVerbatim title) (dated : IsVerbatim deadline)
    (fits : Fits count) (first : title.length < steps) (second : deadline.length < steps)
    (third : (templateCount count).length < steps) :
    readMembers (steps + 8) [] (sampleLines title deadline count) =
      .ok (sampleFields title deadline count.toJson, []) := by
  rw [sampleLines,
    readMembers_quoted (by decide) (show 5 < _ by omega) (skip_member _ _ _) titled (by omega),
    readMembers_quoted (by decide) (show 8 < _ by omega) (skip_member _ _ _) dated (by omega),
    readMembers_quoted (by decide) (show 19 < _ by omega) (skip_member _ _ _) (by decide)
      (show 15 < _ by omega),
    readMembers_quoted (by decide) (show 18 < _ by omega) (skip_member _ _ _) (by decide)
      (show 21 < _ by omega),
    readMembers_templateCount fits (by omega) (by omega) skip_sampleTasks,
    readMembers_sampleTasks long]
  rfl

/-- If the lines are read and no quote was put in, every text is read up to its quote. -/
theorem exists_readMembers_sampleLines (titled : Sign.doubleQuote ∉ title)
    (dated : Sign.doubleQuote ∉ deadline)
    (counted : ∀ value, count = .text value → Sign.doubleQuote ∉ value)
    {found : List (Text × Json) × Text}
    (read : readMembers (steps + 8) [] (sampleLines title deadline count) = .ok found) :
    ∃ first second third, Spells title first ∧ Spells deadline second ∧ ReadAs count third ∧
      found = (sampleFields first second third, []) := by
  rw [sampleLines] at read
  obtain ⟨first, spelled, read⟩ := exists_readMembers_quoted (by decide) (show 5 < _ by omega)
    (skip_member _ _ _) titled read
  obtain ⟨second, dated, read⟩ := exists_readMembers_quoted (by decide) (show 8 < _ by omega)
    (skip_member _ _ _) dated read
  rw [readMembers_quoted (by decide) (show 19 < _ by omega) (skip_member _ _ _) (by decide)
      (show 15 < _ by omega),
    readMembers_quoted (by decide) (show 18 < _ by omega) (skip_member _ _ _) (by decide)
      (show 21 < _ by omega)] at read
  obtain ⟨third, counted, read⟩ := exists_readMembers_templateCount (by omega)
    skip_sampleTasks counted read
  rw [readMembers_sampleTasks long] at read
  exact ⟨first, second, third, spelled, dated, counted, (Except.ok.inj read).symm⟩

end Lines

/-- The object is read line by line. -/
theorem exists_read_iff (brief : Brief) :
    ∃ steps, 66 ≤ steps ∧ (title brief).length < steps ∧ (deadline brief).length < steps ∧
      (templateCount (taskCount brief)).length < steps ∧
      ∀ value, read (responseTemplate brief) = .ok value ↔ ∃ fields rest,
        readMembers (steps + 8) [] (sampleLines (title brief) (deadline brief)
          (taskCount brief)) = .ok (fields, rest) ∧ skip rest = [] ∧ value = .object fields := by
  have long : 66 + (title brief).length + (deadline brief).length +
      (templateCount (taskCount brief)).length ≤
        (sampleLines (title brief) (deadline brief) (taskCount brief)).length := by
    rw [sampleLines]
    simp only [member, quoted, List.length_cons, List.length_append, List.length_nil]
    have fixed : 66 ≤ sampleTasks.length := by decide
    omega
  rw [responseTemplate_eq]
  generalize inner : sampleLines (title brief) (deadline brief) (taskCount brief) = lines at long ⊢
  have skipped : skip (Sign.newline :: Sign.space :: Sign.space :: lines) = lines := by
    rw [← inner]
    exact skip_member _ _ _
  have more : ∀ others, skip (Sign.newline :: Sign.space :: Sign.space :: lines) ≠
      Sign.rightBrace :: others := by
    rw [skipped, ← inner]
    intro others same
    cases same
  refine ⟨2 * lines.length + 1, by omega, by omega, by omega, by omega, fun value => ?_⟩
  rw [read_leftBrace more, skipped]
  rfl

/-! ## (6) What is shown -/

/-- Fields have the title and the deadline of a brief, with defaults in place of empty texts, and
its number of tasks, which is `n` where there is none. -/
structure Meant (brief : Brief) (fields : List (Text × Json)) : Prop where
  /-- The title is that of the brief. -/
  title : fieldIn? "title" fields =
    some (.text (if brief.title = [] then ("Untitled Assignment" : Text) else brief.title))
  /-- The deadline is that of the brief. -/
  deadline : fieldIn? "deadline" fields =
    some (.text (if brief.deadline = [] then ("Deadline not specified" : Text)
      else brief.deadline))
  /-- The number of tasks is that of the brief, a number or a text as it is there. -/
  taskCount : fieldIn? "numberOfTasks" fields = some (match brief.taskCount with
    | none | some (.text []) => .text "n"
    | some (.text value) => .text value
    | some (.int value) => .int value)

/-- A text is an object with the fields that are meant. -/
def Shows (brief : Brief) (shown : Text) : Prop :=
  ∃ fields, read shown = .ok (.object fields) ∧ Meant brief fields

/-- What a brief says can be put between quotes as it is. -/
structure Splices (brief : Brief) : Prop where
  /-- The title has no sign that needs an escape. -/
  title : IsVerbatim brief.title
  /-- Neither has the deadline. -/
  deadline : IsVerbatim brief.deadline
  /-- Nor has a number of tasks in words. -/
  words : ∀ value, brief.taskCount = some (.text value) → IsVerbatim value
  /-- A number of tasks is within the limit of digits. -/
  number : ∀ value, brief.taskCount = some (.int value) → Short value

section Given

variable (brief : Brief)

theorem title_eq :
    title brief = if brief.title = [] then ("Untitled Assignment" : Text) else brief.title := by
  rw [title]
  cases brief.title <;> rfl

theorem deadline_eq :
    deadline brief =
      if brief.deadline = [] then ("Deadline not specified" : Text) else brief.deadline := by
  rw [deadline]
  cases brief.deadline <;> rfl

theorem toJson_taskCount : (taskCount brief).toJson = match brief.taskCount with
    | none | some (.text []) => .text "n"
    | some (.text value) => .text value
    | some (.int value) => .int value := by
  rw [taskCount]
  rcases brief.taskCount with _ | ⟨_ | _⟩ | _ <;> rfl

/-- The fields that are meant are those that were put in. -/
theorem meant_iff (fields : List (Text × Json)) : Meant brief fields ↔
    fieldIn? "title" fields = some (.text (title brief)) ∧
      fieldIn? "deadline" fields = some (.text (deadline brief)) ∧
      fieldIn? "numberOfTasks" fields = some (taskCount brief).toJson := by
  rw [title_eq, deadline_eq, toJson_taskCount]
  exact ⟨fun meant => ⟨meant.title, meant.deadline, meant.taskCount⟩,
    fun ⟨title, deadline, taskCount⟩ => ⟨title, deadline, taskCount⟩⟩

/-- The defaults have no sign that needs an escape. -/
theorem splices_iff : Splices brief ↔
    IsVerbatim (title brief) ∧ IsVerbatim (deadline brief) ∧ Fits (taskCount brief) := by
  have orDefault (text : Text) {default : Text} (plain : IsVerbatim default) :
      IsVerbatim (if text = [] then default else text) ↔ IsVerbatim text := by
    by_cases empty : text = []
    · rw [if_pos empty, empty]
      exact iff_of_true plain (List.forall_mem_nil _)
    · rw [if_neg empty]
  have counted : Fits (taskCount brief) ↔
      (∀ value, brief.taskCount = some (.text value) → IsVerbatim value) ∧
        ∀ value, brief.taskCount = some (.int value) → Short value := by
    rw [taskCount]
    rcases brief.taskCount with _ | ⟨_ | _⟩ | _ <;> simp [Fits]
    all_goals decide
  rw [title_eq, deadline_eq, orDefault _ (by decide), orDefault _ (by decide), counted]
  exact ⟨fun splices => ⟨splices.title, splices.deadline, splices.words, splices.number⟩,
    fun ⟨title, deadline, words, number⟩ => ⟨title, deadline, words, number⟩⟩

end Given

section Shows

variable {brief : Brief}

/-- What can be put in is shown. -/
theorem Splices.shows (splices : Splices brief) : Shows brief (responseTemplate brief) := by
  obtain ⟨titled, dated, fits⟩ := (splices_iff brief).mp splices
  obtain ⟨steps, long, first, second, third, reads⟩ := exists_read_iff brief
  have lines := readMembers_sampleLines long titled dated fits first second third
  exact ⟨_, (reads _).mpr ⟨_, [], lines, rfl, rfl⟩, (meant_iff brief _).mpr ⟨rfl, rfl, rfl⟩⟩

/-- The backslashes in the object that is shown stand in what was put in. -/
theorem count_responseTemplate (brief : Brief) :
    (responseTemplate brief).count Sign.backslash =
      (title brief).count Sign.backslash + (deadline brief).count Sign.backslash +
        (templateCount (taskCount brief)).count Sign.backslash := by
  have line (name value rest : Text) (plain : (writeText name).count Sign.backslash = 0) :
      (member name value rest).count Sign.backslash =
        value.count Sign.backslash + rest.count Sign.backslash := by
    simp [member, plain]
  have between (text : Text) :
      (quoted text).count Sign.backslash = text.count Sign.backslash := by
    simp [quoted]
  have fixed : sampleTasks.count Sign.backslash = 0 := by decide
  have marks : (quoted "<overall marks>").count Sign.backslash = 0 := by decide
  have criteria : (quoted "<evaluation criteria>").count Sign.backslash = 0 := by decide
  rw [responseTemplate_eq, sampleLines]
  rw [List.count_cons_of_ne (by decide), List.count_cons_of_ne (by decide),
    List.count_cons_of_ne (by decide), List.count_cons_of_ne (by decide), line _ _ _ (by decide),
    line _ _ _ (by decide), line _ _ _ (by decide), line _ _ _ (by decide),
    line _ _ _ (by decide), between, between, marks, criteria, fixed]
  omega

/-- A number of tasks that is put in has no more backslashes, and quotes of its own, than signs
that need an escape. -/
theorem count_templateCount_le (count : TaskCount) :
    (templateCount count).count Sign.backslash ≤ escapes count.toJson ∧
      ∀ value, count = .text value →
        (templateCount count).count Sign.backslash + value.count Sign.doubleQuote ≤
          escapes count.toJson := by
  cases count with
  | text value =>
      have between : (templateCount (.text value)).count Sign.backslash =
          value.count Sign.backslash := by
        simp [templateCount]
      have enough := count_add_count_le value
      rw [between]
      refine ⟨Nat.le_trans (Nat.le_add_right _ _) enough, ?_⟩
      rintro _ ⟨⟩
      exact enough
  | int value =>
      refine ⟨Nat.le_of_eq (List.count_eq_zero.mpr fun member => ?_), by rintro _ ⟨⟩⟩
      have digits (number : Nat) : Sign.backslash ∉ Text.ofNat number := by
        intro member
        exact absurd (Text.isDigit_of_mem_ofNat member) (by decide)
      cases value with
      | ofNat number => exact digits _ member
      | negSucc number => exact digits _ ((List.mem_cons.mp member).resolve_left (by decide))

/-- If the object that is meant is shown, there are no quotes in what was put in. -/
theorem Shows.unquoted (shows : Shows brief (responseTemplate brief)) :
    Sign.doubleQuote ∉ title brief ∧ Sign.doubleQuote ∉ deadline brief ∧
      ∀ value, taskCount brief = .text value → Sign.doubleQuote ∉ value := by
  obtain ⟨fields, read, meant⟩ := shows
  obtain ⟨titled, dated, counted⟩ := (meant_iff brief fields).mp meant
  -- the three fields are different ones, so their signs add up
  obtain ⟨others, first, kept⟩ := exists_fields_without titled
  obtain ⟨others, second, kept'⟩ :=
    exists_fields_without ((kept _ (by decide)).trans dated)
  obtain ⟨others, third, -⟩ :=
    exists_fields_without ((kept' _ (by decide)).trans ((kept _ (by decide)).trans counted))
  have total := escapes_le_of_read read
  rw [escapes, first, second, third, escapes, escapes, count_responseTemplate] at total
  have inTitle := count_add_count_le (title brief)
  have inDeadline := count_add_count_le (deadline brief)
  obtain ⟨inCount, inWords⟩ := count_templateCount_le (taskCount brief)
  refine ⟨List.count_eq_zero.mp (by omega), List.count_eq_zero.mp (by omega), ?_⟩
  intro value words
  have := inWords value words
  exact List.count_eq_zero.mp (by omega)

/-- A text that is spelled by itself has no sign that needs an escape. -/
theorem isVerbatim_of_spells {text : Text} (spells : Spells text text) : IsVerbatim text :=
  spells.verbatim (Nat.le_refl _)

/-- What is shown can be put in. -/
theorem Shows.splices (shows : Shows brief (responseTemplate brief)) : Splices brief := by
  obtain ⟨titleFree, deadlineFree, wordsFree⟩ := shows.unquoted
  obtain ⟨fields, read, meant⟩ := shows
  obtain ⟨titled, dated, counted⟩ := (meant_iff brief fields).mp meant
  obtain ⟨steps, long, -, -, -, reads⟩ := exists_read_iff brief
  obtain ⟨_, rest, lines, -, same⟩ := (reads _).mp read
  obtain ⟨first, second, third, spelled, dates, counts, found⟩ :=
    exists_readMembers_sampleLines long titleFree deadlineFree wordsFree lines
  obtain ⟨rfl, -⟩ := Prod.mk.inj found
  cases same
  obtain rfl : first = title brief := Json.text.inj (Option.some.inj titled)
  obtain rfl : second = deadline brief := Json.text.inj (Option.some.inj dated)
  obtain rfl : third = (taskCount brief).toJson := Option.some.inj counted
  refine (splices_iff brief).mpr ⟨isVerbatim_of_spells spelled, isVerbatim_of_spells dates, ?_⟩
  cases own : taskCount brief with
  | text value =>
      rw [own] at counts
      obtain ⟨_, ⟨⟩, spells⟩ := counts
      exact isVerbatim_of_spells spells
  | int value =>
      rw [own] at counts
      exact counts.2

end Shows

/-- **The prompt shows the object that is meant exactly if what is put into it needs no escape.**
For every brief and every further context, what follows the line on the format of the response is
the object; it is read as one with the title, the deadline and the number of tasks of the brief
exactly if these have no quotes, no backslashes and no control characters, and a number is within
the limit of digits. Beyond the limit there is no prompt to speak of, and the object cannot be
read. -/
theorem shows_ofBrief (brief : Brief) (further : Option Text) :
    (∃ before after, ofBrief brief further = before ++
      ("RESPONSE FORMAT — respond with ONLY a valid JSON object:\n" : Text) ++
      responseTemplate brief ++ ("\n\nRULES:\n" : Text) ++ after) ∧
    (Shows brief (responseTemplate brief) ↔ Splices brief) := by
  refine ⟨?_, Shows.splices, Splices.shows⟩
  have heading :
      ("\n---\n\nRESPONSE FORMAT — respond with ONLY a valid JSON object:\n" : Text) =
        ("\n---\n\n" : Text) ++
          ("RESPONSE FORMAT — respond with ONLY a valid JSON object:\n" : Text) := by
    decide
  have apart (before dashes line shown rules first second third : Text) :
      before ++ (dashes ++ line) ++ shown ++ rules ++ first ++ second ++ third =
        before ++ dashes ++ line ++ shown ++ rules ++ (first ++ second ++ third) := by
    simp only [List.append_assoc]
  rw [ofBrief, heading]
  exact ⟨_, _, apart _ _ _ _ _ _ _ _⟩

/-- A brief with a quote in its title. -/
def quotedBrief : Brief where
  title := "A\"B"
  subject := "Mathematics"
  classroom := 1
  deadline := "Monday"

/-- A title with a quote ends there, and the object is no JSON. -/
theorem not_shows_quote : ¬Shows quotedBrief (responseTemplate quotedBrief) := by
  rintro ⟨fields, read, -⟩
  have stops : (Json.read (responseTemplate quotedBrief)).isOk = false := by decide +kernel
  rw [read] at stops
  cases stops

end Prompt

end Coursework
