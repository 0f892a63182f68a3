import Coursework.Assignment.Reply
import Coursework.Proofs.Outcome
import Mathlib.Data.List.Forall2

/-! # Accepted replies

A reply is accepted exactly if the text within its fences decodes to an object that describes an
assignment: every required field is given, the four fields that are shown as texts are neither
lists nor objects, the number of tasks is a natural number, and the tasks are at least as many
objects. What is accepted is then determined field by field.

* **`Reply.Describes`** is the condition on the object, `Reply.Given` that on a field.
* **`Reply.ShownOr`**, **`Reply.MarkedAs`** and **`Reply.TaskOf`** say what becomes of a field that
  may be left out, of the marks of a task and of a task.
* **`Reply.Assembled`** ties an assignment to the object that it comes from.
* **`Reply.assemble_eq_ok_iff`** joins the two, **`Reply.validateInto_eq_ok_iff`** is the statement
  about replies. -/

namespace Coursework.Reply

/-! ## (1) Conditions on the object -/

/-- A field is given: it is there, it is not null and no blank text. -/
def Given (fields : List (Text × Json)) (name : Text) : Prop :=
  ∃ value, Json.fieldIn? name fields = some value ∧ value ≠ .null ∧
    ∀ content, value = .text content → content.isBlank = false

/-- The fields that are shown as texts. -/
def scalarFields : List Text := ["title", "deadline", "totalMarksWeightage", "evaluationCriteria"]

/-- They are required. -/
theorem scalarFields_subset : scalarFields ⊆ requiredFields := by
  simp [scalarFields, requiredFields]

/-- A value is neither a list nor an object. -/
def IsScalar (value : Json) : Prop :=
  (∀ items, value ≠ .list items) ∧ ∀ inner, value ≠ .object inner

/-- An object describes an assignment of so many tasks, and lists these objects as tasks. -/
structure Describes (fields : List (Text × Json)) (expected : Nat)
    (listed : List (List (Text × Json))) : Prop where
  /-- Every required field is given. -/
  given : ∀ name ∈ requiredFields, Given fields name
  /-- The fields that are shown as texts are neither lists nor objects. -/
  scalar : ∀ name ∈ scalarFields, ∀ value, Json.fieldIn? name fields = some value → IsScalar value
  /-- The number of tasks is the whole number with which its field begins. -/
  counted : ∃ value, Json.fieldIn? "numberOfTasks" fields = some value ∧
    leadingInteger value = .ok (some expected)
  /-- The tasks are a list of objects. -/
  tasks : Json.fieldIn? "tasks" fields = some (.list (listed.map Json.object))
  /-- There are at least as many as announced. -/
  enough : expected ≤ listed.length

/-! ## (2) The assignment of an object -/

/-- A field of an object is shown as a text. -/
def Shown (fields : List (Text × Json)) (name shown : Text) : Prop :=
  ∃ value, Json.fieldIn? name fields = some value ∧ shown = value.display

/-- The values that stand for nothing: null, false, zero and what is empty. -/
inductive IsNothing : Json → Prop
  /-- Null. -/
  | null : IsNothing .null
  /-- False. -/
  | false : IsNothing (.bool false)
  /-- The whole number zero. -/
  | int : IsNothing (.int 0)
  /-- Zero as any other number. -/
  | float (value : Binary64) (zero : value.isZero = true) : IsNothing (.float value)
  /-- The empty text. -/
  | text : IsNothing (.text [])
  /-- The empty list. -/
  | list : IsNothing (.list [])
  /-- The object without fields. -/
  | object : IsNothing (.object [])

/-- A field of an object that may be left out is shown as a text. If it is left out, or stands for
nothing, another text is shown. -/
def ShownOr (default : Text) (fields : List (Text × Json)) (name shown : Text) : Prop :=
  (∃ value, Json.fieldIn? name fields = some value ∧ ¬ IsNothing value ∧ shown = value.display) ∨
    (∀ value, Json.fieldIn? name fields = some value → IsNothing value) ∧ shown = default

/-- A field of an object is kept as marks if it is a text or a number. Otherwise the marks are the
empty text. -/
def MarkedAs (fields : List (Text × Json)) (name : Text) (marks : Marks) : Prop :=
  Json.fieldIn? name fields = some marks.toJson ∨
    (∀ other : Marks, Json.fieldIn? name fields ≠ some other.toJson) ∧ marks = .text []

/-- A task is the one that an object describes. -/
structure TaskOf (fields : List (Text × Json)) (task : Task) : Prop where
  /-- What is to be done is shown as it was given, and empty if it was not. -/
  description : ShownOr [] fields "description" task.description
  /-- The marks are those given. -/
  weightage : MarkedAs fields "weightage" task.weightage

/-- The value that marks keep: a truth value becomes its text, any other value stays. -/
def keptMarks : Json → Json
  | .bool value => .text (Json.bool value).display
  | value => value

/-- An assignment is the one that an object describes. -/
structure Assembled (fields : List (Text × Json)) (expected : Nat)
    (listed : List (List (Text × Json))) (record : Record) : Prop where
  /-- The title is shown as it was given. -/
  title : Shown fields "title" record.title
  /-- So is the deadline. -/
  deadline : Shown fields "deadline" record.deadline
  /-- So are the criteria. -/
  criteria : Shown fields "evaluationCriteria" record.criteria
  /-- The marks keep their value and its kind. -/
  totalMarks : ∃ value, Json.fieldIn? "totalMarksWeightage" fields = some value ∧
    record.totalMarks.toJson = keptMarks value
  /-- The number of tasks is the announced one. -/
  taskCount : record.taskCount = expected
  /-- There are as many tasks. -/
  complete : record.Complete
  /-- The tasks are those of the first objects listed, in order. -/
  tasks : List.Forall₂ TaskOf (listed.take expected) record.tasks
  /-- The language is English unless another one is given. -/
  language : ShownOr "English" fields "language" record.language
  /-- There are no further instructions unless some are given. -/
  instructions : ShownOr "None" fields "additionalInstructions" record.instructions

/-! ## (3) One field -/

theorem given_iff_isMissing {fields : List (Text × Json)} {name : Text} :
    Given fields name ↔ isMissing (Json.fieldIn? name fields) = false := by
  rw [Given]
  cases Json.fieldIn? name fields with
  | none => simp [isMissing]
  | some value => cases value <;> simp [isMissing]

/-- No field is missing exactly if every required one is given. -/
theorem missingFields_eq_nil_iff {fields : List (Text × Json)} :
    missingFields fields = [] ↔ ∀ name ∈ requiredFields, Given fields name := by
  rw [missingFields, List.filter_eq_nil_iff]
  simp only [given_iff_isMissing, Bool.not_eq_true]

/-- A given field is used as a text unless it is a list or an object. -/
theorem scalar_eq_ok_iff {fields : List (Text × Json)} {name unfenced : Text} {value : Json}
    (given : Given fields name) :
    scalar fields name unfenced = .ok value ↔
      Json.fieldIn? name fields = some value ∧ IsScalar value := by
  obtain ⟨other, hfound, -⟩ := given
  rw [scalar, hfound, Option.some.injEq]
  cases other <;> simp +contextual [IsScalar, eq_comm]

/-- The announced number is the natural number with which a value begins. -/
theorem announced_eq_ok_iff {unfenced : Text} {value : Json} {count : Nat} :
    announced unfenced value = .ok count ↔ leadingInteger value = .ok (some count) := by
  rw [announced, Outcome.bind_eq_ok_iff]
  constructor
  · rintro ⟨found, hfound, h⟩
    rcases found with _ | (number | number)
    · cases h
    · cases h
      exact hfound
    · cases h
  · intro h
    exact ⟨some count, h, rfl⟩

theorem isNothing_iff_isVoid {value : Json} : IsNothing value ↔ value.isVoid = true := by
  constructor
  · intro idle
    cases idle with
    | float value zero => exact zero
    | null | false | int | text | list | object => rfl
  · intro void
    cases value with
    | null => exact .null
    | bool value =>
        cases value with
        | false => exact .false
        | true => cases void
    | int value =>
        obtain rfl : value = 0 := by simpa [Json.isVoid] using void
        exact .int
    | float value => exact .float value void
    | text value =>
        obtain rfl := List.isEmpty_iff.mp void
        exact .text
    | list items =>
        obtain rfl := List.isEmpty_iff.mp void
        exact .list
    | object fields =>
        obtain rfl := List.isEmpty_iff.mp void
        exact .object

/-- One text only is shown for a field that may be left out. -/
theorem shownOr_iff {default name shown : Text} {fields : List (Text × Json)} :
    ShownOr default fields name shown ↔ shown = textOr default (Json.fieldIn? name fields) := by
  rw [ShownOr]
  cases Json.fieldIn? name fields with
  | none => simp [textOr]
  | some value =>
      cases void : value.isVoid <;> simp [textOr, isNothing_iff_isVoid, void]

/-- Marks are told apart by their values. -/
theorem toJson_marks_injective {marks other : Marks} (h : marks.toJson = other.toJson) :
    marks = other := by
  have hread := congrArg Marks.ofJson h
  rw [Marks.ofJson_toJson, Marks.ofJson_toJson] at hread
  exact Except.ok.inj hread

/-- A field is kept as one value only. -/
theorem markedAs_iff {fields : List (Text × Json)} {name : Text} {marks : Marks} :
    MarkedAs fields name marks ↔ marks = taskMarks (Json.fieldIn? name fields) := by
  have kept : ∀ own : Marks, Json.fieldIn? name fields = some own.toJson →
      (MarkedAs fields name marks ↔ marks = own) := by
    intro own found
    rw [MarkedAs, found, Option.some.injEq]
    constructor
    · rintro (same | ⟨none, -⟩)
      · exact (toJson_marks_injective same).symm
      · exact absurd rfl (none own)
    · rintro rfl
      exact .inl rfl
  cases found : Json.fieldIn? name fields with
  | none => simp [MarkedAs, found, taskMarks]
  | some value =>
      cases value with
      | text value => exact kept (.text value) found
      | int value => exact kept (.int value) found
      | float value => exact kept (.float value) found
      | null | bool _ | list _ | object _ =>
          have other : ∀ marks : Marks, Json.fieldIn? name fields ≠ some marks.toJson := by
            intro marks same
            rw [found, Option.some.injEq] at same
            cases marks <;> cases same
          rw [MarkedAs, iff_false_intro (other marks), false_or, and_iff_right other]
          rfl

/-! ## (4) Tasks -/

/-- An object describes one task only. -/
theorem taskOf_iff {fields : List (Text × Json)} {other : Task} :
    TaskOf fields other ↔ task fields = other := by
  obtain ⟨description, weightage⟩ := other
  rw [task, Task.mk.injEq, eq_comm, eq_comm (b := weightage), ← shownOr_iff, ← markedAs_iff]
  exact ⟨fun described => ⟨described.1, described.2⟩, fun both => ⟨both.1, both.2⟩⟩

/-- Objects describe one list of tasks only. -/
theorem forall₂_taskOf_iff {listed : List (List (Text × Json))} {others : List Task} :
    List.Forall₂ TaskOf listed others ↔ others = listed.map task := by
  have same : TaskOf = fun fields other => task fields = other :=
    funext fun _ => funext fun _ => propext taskOf_iff
  rw [same, ← List.forall₂_map_left_iff, List.forall₂_eq_eq_eq, eq_comm]

/-- Items are tasks exactly if all of them are objects. -/
theorem tasksFrom_eq_ok_iff {unfenced : Text} {position : Nat} {items : List Json}
    {result : List Task} :
    tasksFrom unfenced position items = .ok result ↔
      ∃ listed : List (List (Text × Json)), items = listed.map Json.object ∧
        result = listed.map task := by
  induction items generalizing position result with
  | nil => simp [tasksFrom, eq_comm]
  | cons item items ih =>
      constructor
      · intro h
        -- only an object lets the remaining items be read
        cases item with
        | object fields =>
            rw [tasksFrom, Outcome.map_eq_ok_iff] at h
            obtain ⟨rest, hrest, rfl⟩ := h
            obtain ⟨listed, rfl, rfl⟩ := ih.mp hrest
            exact ⟨fields :: listed, rfl, rfl⟩
        | null | bool _ | int _ | float _ | text _ | list _ => cases h
      · rintro ⟨listed, hitems, rfl⟩
        cases listed with
        | nil => cases hitems
        | cons fields listed =>
            rw [List.map_cons, List.cons.injEq] at hitems
            obtain ⟨rfl, hrest⟩ := hitems
            rw [tasksFrom, ih.mpr ⟨listed, hrest, rfl⟩]
            rfl

/-- A value gives tasks exactly if it is a list of objects. -/
theorem tasks_eq_ok_iff {unfenced : Text} {value : Json} {result : List Task} :
    tasks unfenced value = .ok result ↔
      ∃ listed : List (List (Text × Json)), value = .list (listed.map Json.object) ∧
        result = listed.map task := by
  cases value with
  | list items =>
      rw [tasks, tasksFrom_eq_ok_iff]
      simp only [Json.list.injEq]
  | null | bool _ | int _ | float _ | text _ | object _ => simp [tasks]

/-! ## (5) The object -/

/-- An empty text is no JSON. -/
theorem read_nil : Json.read [] = .error (.malformed .value 0) := by
  rfl

/-- An unfenced reply is decoded exactly if it is read as an object. -/
theorem decodeUnfenced_eq_ok_iff {unfenced : Text} {reply : Json} {fields : List (Text × Json)} :
    decodeUnfenced unfenced reply = .ok fields ↔ Json.read unfenced = .ok (.object fields) := by
  cases unfenced with
  | nil => simp [decodeUnfenced, read_nil]
  | cons sign text =>
      rw [decodeUnfenced, List.isEmpty_cons, if_neg Bool.false_ne_true]
      cases Json.read (sign :: text) with
      | error fault => cases fault <;> simp
      | ok value => cases value <;> simp

/-! ## (6) The assignment -/

/-- A value that is given and neither a list nor an object is kept in the marks. -/
theorem toJson_totalMarks {value : Json} (scalar : IsScalar value) (given : value ≠ .null) :
    (totalMarks value).toJson = keptMarks value := by
  cases value with
  | null => exact absurd rfl given
  | list items => exact absurd rfl (scalar.1 items)
  | object fields => exact absurd rfl (scalar.2 fields)
  | bool _ | int _ | float _ | text _ => rfl

/-- The surplus of tasks over the announced number. -/
def surplus (expected actual : Nat) : List Diagnostic :=
  if expected < actual then [.surplus expected actual] else []

/-- The assignment of an object that describes one is the only one that comes from it. -/
theorem assembled_iff {fields : List (Text × Json)} {expected : Nat}
    {listed : List (List (Text × Json))} {record : Record} {title deadline marks criteria : Json}
    (htitle : Json.fieldIn? "title" fields = some title)
    (hdeadline : Json.fieldIn? "deadline" fields = some deadline)
    (hmarks : Json.fieldIn? "totalMarksWeightage" fields = some marks)
    (hcriteria : Json.fieldIn? "evaluationCriteria" fields = some criteria)
    (scalar : IsScalar marks) (given : marks ≠ .null) (enough : expected ≤ listed.length) :
    Assembled fields expected listed record ↔
      record = {
        title := title.display
        deadline := deadline.display
        totalMarks := totalMarks marks
        criteria := criteria.display
        taskCount := expected
        tasks := (listed.map task).take expected
        language := textOr "English" (Json.fieldIn? "language" fields)
        instructions := textOr "None" (Json.fieldIn? "additionalInstructions" fields) } := by
  constructor
  -- every field has one value only, so the parts of the two assignments are the same
  · rintro ⟨⟨_, foundTitle, hrecordTitle⟩, ⟨_, foundDeadline, hrecordDeadline⟩,
      ⟨_, foundCriteria, hrecordCriteria⟩, ⟨_, foundMarks, hrecordMarks⟩, hcount, -, htasks,
      hlanguage, hinstructions⟩
    obtain rfl := Option.some.inj (htitle.symm.trans foundTitle)
    obtain rfl := Option.some.inj (hdeadline.symm.trans foundDeadline)
    obtain rfl := Option.some.inj (hcriteria.symm.trans foundCriteria)
    obtain rfl := Option.some.inj (hmarks.symm.trans foundMarks)
    rw [← toJson_totalMarks scalar given] at hrecordMarks
    rw [forall₂_taskOf_iff, List.map_take] at htasks
    rw [shownOr_iff] at hlanguage hinstructions
    rw [← hrecordTitle, ← hrecordDeadline, ← hrecordCriteria,
      ← toJson_marks_injective hrecordMarks, ← hcount, ← hlanguage, ← hinstructions]
    rw [← hcount] at htasks
    rw [← htasks]
  · rintro rfl
    exact {
      title := ⟨title, htitle, rfl⟩
      deadline := ⟨deadline, hdeadline, rfl⟩
      criteria := ⟨criteria, hcriteria, rfl⟩
      totalMarks := ⟨marks, hmarks, toJson_totalMarks scalar given⟩
      taskCount := rfl
      complete := by
        rw [Record.Complete, List.length_take, List.length_map]
        exact Nat.min_eq_left enough
      tasks := forall₂_taskOf_iff.mpr (List.map_take ..).symm
      language := shownOr_iff.mpr rfl
      instructions := shownOr_iff.mpr rfl }

/-- The tasks of an assignment are those found in the first objects listed. -/
theorem Assembled.tasks_eq {fields : List (Text × Json)} {expected : Nat}
    {listed : List (List (Text × Json))} {record : Record}
    (assembled : Assembled fields expected listed record) :
    record.tasks = (listed.take expected).map task :=
  forall₂_taskOf_iff.mp assembled.tasks

/-- A field that is known to be given has one value only, which is not null. -/
theorem Given.ne_null {fields : List (Text × Json)} {name : Text} {value : Json}
    (given : Given fields name) (found : Json.fieldIn? name fields = some value) :
    value ≠ .null := by
  obtain ⟨other, hfound, hvalue, -⟩ := given
  obtain rfl := Option.some.inj (hfound.symm.trans found)
  exact hvalue

/-- Fields that give an assignment describe it. -/
theorem describes_of_assemble {unfenced : Text} {fields : List (Text × Json)}
    {accepted : Accepted} (assembled : assemble unfenced fields = .ok accepted) :
    ∃ expected listed, Describes fields expected listed ∧
      Assembled fields expected listed accepted.record ∧
      accepted.noticed = surplus expected listed.length := by
  simp only [assemble, Outcome.unless_eq_ok_iff, Outcome.bind_eq_ok_iff] at assembled
  obtain ⟨hmissing, title, htitle, deadline, hdeadline, marks, hmarks, criteria, hcriteria,
    expected, hexpected, found, hfound, henough, hresult⟩ := assembled
  -- all fields are given, so that none of those read is missing
  have given := missingFields_eq_nil_iff.mp (by simpa using hmissing)
  have hgiven : ∀ name ∈ scalarFields, Given fields name :=
    fun name h => given name (scalarFields_subset h)
  simp only [scalarFields, List.forall_mem_cons] at hgiven
  obtain ⟨givenTitle, givenDeadline, givenMarks, givenCriteria, -⟩ := hgiven
  rw [scalar_eq_ok_iff givenTitle] at htitle
  rw [scalar_eq_ok_iff givenDeadline] at hdeadline
  rw [scalar_eq_ok_iff givenMarks] at hmarks
  rw [scalar_eq_ok_iff givenCriteria] at hcriteria
  obtain ⟨number, hnumber, -⟩ := given "numberOfTasks" (by simp [requiredFields])
  rw [hnumber, Option.getD_some, announced_eq_ok_iff] at hexpected
  obtain ⟨items, hitems, -⟩ := given "tasks" (by simp [requiredFields])
  rw [hitems, Option.getD_some, tasks_eq_ok_iff] at hfound
  obtain ⟨listed, rfl, rfl⟩ := hfound
  rw [List.length_map] at henough
  have enough : expected ≤ listed.length := Nat.not_lt.mp henough
  obtain rfl := Except.ok.inj hresult
  -- the marks are kept as they were found, everything else is what is shown of it
  refine ⟨expected, listed, ⟨given, ?_, ⟨number, hnumber, hexpected⟩, hitems, enough⟩, ?_, ?_⟩
  · simp only [scalarFields, List.forall_mem_cons, htitle.1, hdeadline.1, hmarks.1, hcriteria.1,
      Option.some.injEq, forall_eq', List.not_mem_nil, false_implies, implies_true, and_true]
    exact ⟨htitle.2, hdeadline.2, hmarks.2, hcriteria.2⟩
  · exact (assembled_iff htitle.1 hdeadline.1 hmarks.1 hcriteria.1 hmarks.2
      (givenMarks.ne_null hmarks.1) enough).mpr rfl
  · rw [List.length_map]
    rfl

/-- Fields that describe an assignment give it. -/
theorem assemble_of_describes {unfenced : Text} {fields : List (Text × Json)} {expected : Nat}
    {listed : List (List (Text × Json))} {accepted : Accepted}
    (describes : Describes fields expected listed)
    (assembled : Assembled fields expected listed accepted.record)
    (hnoticed : accepted.noticed = surplus expected listed.length) :
    assemble unfenced fields = .ok accepted := by
  simp only [assemble, Outcome.unless_eq_ok_iff, Outcome.bind_eq_ok_iff]
  have hgiven : ∀ name ∈ scalarFields, Given fields name :=
    fun name h => describes.given name (scalarFields_subset h)
  have hscalar := describes.scalar
  simp only [scalarFields, List.forall_mem_cons] at hgiven hscalar
  obtain ⟨givenTitle, givenDeadline, givenMarks, givenCriteria, -⟩ := hgiven
  obtain ⟨scalarTitle, scalarDeadline, scalarMarks, scalarCriteria, -⟩ := hscalar
  -- every value that is needed is found, and no check stops the work
  obtain ⟨title, htitle, -⟩ := id givenTitle
  obtain ⟨deadline, hdeadline, -⟩ := id givenDeadline
  obtain ⟨marks, hmarks, -⟩ := id givenMarks
  obtain ⟨criteria, hcriteria, -⟩ := id givenCriteria
  obtain ⟨number, hnumber, hexpected⟩ := describes.counted
  have hrecord := (assembled_iff htitle hdeadline hmarks hcriteria (scalarMarks _ hmarks)
    (givenMarks.ne_null hmarks) describes.enough).mp assembled
  refine ⟨by simpa using missingFields_eq_nil_iff.mpr describes.given,
    title, (scalar_eq_ok_iff givenTitle).mpr ⟨htitle, scalarTitle _ htitle⟩,
    deadline, (scalar_eq_ok_iff givenDeadline).mpr ⟨hdeadline, scalarDeadline _ hdeadline⟩,
    marks, (scalar_eq_ok_iff givenMarks).mpr ⟨hmarks, scalarMarks _ hmarks⟩,
    criteria, (scalar_eq_ok_iff givenCriteria).mpr ⟨hcriteria, scalarCriteria _ hcriteria⟩,
    expected, ?_, listed.map task, ?_, ?_, ?_⟩
  · rw [hnumber, Option.getD_some, announced_eq_ok_iff]
    exact hexpected
  · rw [describes.tasks, Option.getD_some, tasks_eq_ok_iff]
    exact ⟨listed, rfl, rfl⟩
  · rw [List.length_map]
    exact Nat.not_lt.mpr describes.enough
  · obtain ⟨record, noticed⟩ := accepted
    simp only at hrecord hnoticed
    rw [List.length_map, hrecord, hnoticed]
    rfl

/-- The fields of a reply give an assignment exactly if they describe it. -/
theorem assemble_eq_ok_iff {unfenced : Text} {fields : List (Text × Json)}
    {accepted : Accepted} :
    assemble unfenced fields = .ok accepted ↔
      ∃ expected listed, Describes fields expected listed ∧
        Assembled fields expected listed accepted.record ∧
        accepted.noticed = surplus expected listed.length := by
  constructor
  · exact describes_of_assemble
  · rintro ⟨expected, listed, describes, assembled, hnoticed⟩
    exact assemble_of_describes describes assembled hnoticed

/-! ## (7) Replies -/

/-- A reply describes an assignment of so many tasks: the text within its fences is read as an
object that does. -/
structure Answers (reply : Json) (fields : List (Text × Json)) (expected : Nat)
    (listed : List (List (Text × Json))) : Prop where
  /-- The text within the fences is read as these fields. -/
  read : ∃ text, textOf reply = .ok text ∧ Json.read (unfence text) = .ok (.object fields)
  /-- They describe the assignment. -/
  describes : Describes fields expected listed

/-- A reply is accepted exactly if it describes an assignment. -/
theorem validate_eq_ok_iff {reply : Json} {accepted : Accepted} :
    validate reply = .ok accepted ↔
      ∃ fields expected listed, Answers reply fields expected listed ∧
        Assembled fields expected listed accepted.record ∧
        accepted.noticed = surplus expected listed.length := by
  simp only [validate, Outcome.bind_eq_ok_iff, decodeUnfenced_eq_ok_iff, assemble_eq_ok_iff]
  constructor
  · rintro ⟨text, htext, fields, hread, expected, listed, describes, assembled, hnoticed⟩
    exact ⟨fields, expected, listed, ⟨⟨text, htext, hread⟩, describes⟩, assembled, hnoticed⟩
  · rintro ⟨fields, expected, listed, ⟨⟨text, htext, hread⟩, describes⟩, assembled, hnoticed⟩
    exact ⟨text, htext, fields, hread, expected, listed, describes, assembled, hnoticed⟩

/-- A reply gives an assignment exactly if it describes it. The list of diagnostics then has that
of a surplus of tasks after those noticed before, and the assignment is the one that is found
without such a list. -/
theorem validateInto_eq_ok_iff (noticed after : List Diagnostic) (reply : Json)
    (record : Record) :
    (validateInto noticed reply = (.ok record, after) ↔
      ∃ fields expected listed, Answers reply fields expected listed ∧
        Assembled fields expected listed record ∧
        after = noticed ++ surplus expected listed.length) ∧
    (validateInto noticed reply).1 = (validate reply).map Accepted.record := by
  rw [validateInto]
  cases hvalidate : validate reply with
  -- what is described would be accepted
  | error failure =>
      refine ⟨⟨?_, ?_⟩, rfl⟩
      · intro h
        cases h
      · rintro ⟨fields, expected, listed, answers, assembled, -⟩
        have haccepted : validate reply = .ok ⟨record, surplus expected listed.length⟩ :=
          validate_eq_ok_iff.mpr ⟨fields, expected, listed, answers, assembled, rfl⟩
        rw [hvalidate] at haccepted
        cases haccepted
  | ok accepted =>
      obtain ⟨found, diagnostics⟩ := accepted
      refine ⟨⟨?_, ?_⟩, rfl⟩
      · intro h
        rw [Prod.mk.injEq, Except.ok.injEq] at h
        obtain ⟨rfl, rfl⟩ := h
        obtain ⟨fields, expected, listed, answers, assembled, rfl⟩ :=
          validate_eq_ok_iff.mp hvalidate
        exact ⟨fields, expected, listed, answers, assembled, rfl⟩
      · rintro ⟨fields, expected, listed, answers, assembled, rfl⟩
        have haccepted : validate reply = .ok ⟨record, surplus expected listed.length⟩ :=
          validate_eq_ok_iff.mpr ⟨fields, expected, listed, answers, assembled, rfl⟩
        rw [hvalidate, Except.ok.injEq, Accepted.mk.injEq] at haccepted
        rw [haccepted.1, haccepted.2]

end Coursework.Reply
