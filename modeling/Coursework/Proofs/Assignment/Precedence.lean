import Coursework.Proofs.Assignment.Taxonomy

/-! # Which flaw a reply is rejected for

A reply may be wrong in many ways at once. Each flaw is a condition on the reply that does not
speak of the others, with the cause that tells it; a reply is rejected for the first flaw that it
has, in a fixed order, and a list of diagnostics is then left as it was.

* **`Foremost`** is the first item for which something holds.
* **`Reply.Flaw`** lists the flaws in order, **`Reply.Flawed`** says which of them a reply has and
  **`Reply.Faulty`** the same of an object.
* **`Flawed.unique`**: a flaw has one cause.
* **`validateInto_eq_error_iff`** is the main statement. -/

namespace Coursework

/-! ## (1) The first item -/

section Foremost

variable {α : Type} {holds : α → Prop}

/-- Something holds of an item, and of none of those before it. -/
structure Foremost (holds : α → Prop) (items before : List α) (item : α) : Prop where
  /-- The items begin with those before it and the item itself. -/
  split : ∃ after, items = before ++ item :: after
  /-- It holds of the item. -/
  own : holds item
  /-- It holds of none before. -/
  earlier : ∀ other ∈ before, ¬holds other

theorem Foremost.mem {items before : List α} {item : α} (first : Foremost holds items before item) :
    item ∈ items := by
  obtain ⟨after, rfl⟩ := first.split
  exact List.mem_append_right _ List.mem_cons_self

/-- There is no other first item. -/
theorem Foremost.unique {items before front : List α} {item other : α}
    (first : Foremost holds items before item) (second : Foremost holds items front other) :
    before = front ∧ item = other := by
  obtain ⟨⟨after, rfl⟩, own, earlier⟩ := first
  obtain ⟨⟨rest, same⟩, own', earlier'⟩ := second
  -- either item would stand before the other one if they were not at the same place
  rcases List.append_eq_append_iff.mp same with ⟨middle, rfl, h⟩ | ⟨middle, rfl, h⟩
  all_goals
    cases middle with
    | nil =>
        rw [List.nil_append, List.cons.injEq] at h
        simp [h.1]
    | cons inner middle =>
        rw [List.cons_append, List.cons.injEq] at h
        first
          | exact absurd own (h.1 ▸ earlier' inner (by simp))
          | exact absurd own' (h.1 ▸ earlier inner (by simp))

/-- A part of items without repetition that is kept in order is told by its members. -/
theorem eq_filter_of_sublist {part items : List α} (order : part.Sublist items)
    (nodup : items.Nodup) {keep : α → Bool}
    (exact : ∀ item ∈ items, item ∈ part ↔ keep item = true) :
    part = items.filter keep := by
  induction order with
  | slnil => rfl
  | cons item order ih =>
      obtain ⟨fresh, nodup⟩ := List.nodup_cons.mp nodup
      obtain ⟨own, others⟩ := List.forall_mem_cons.mp exact
      have left : ¬keep item = true := fun kept => fresh (order.subset (own.mpr kept))
      rw [List.filter_cons_of_neg left]
      exact ih nodup others
  | cons_cons item order ih =>
      obtain ⟨fresh, nodup⟩ := List.nodup_cons.mp nodup
      obtain ⟨own, others⟩ := List.forall_mem_cons.mp exact
      rw [List.filter_cons_of_pos (own.mp List.mem_cons_self)]
      refine congrArg _ (ih nodup fun other member => ?_)
      have distinct : other ≠ item := fun same => fresh (same ▸ member)
      rw [← others other member, List.mem_cons, or_iff_right distinct]

end Foremost

namespace Reply

/-! ## (2) Flaws -/

/-- What may be wrong with a reply. -/
inductive Flaw
  /-- Nothing is left within the fences. -/
  | empty
  /-- It is no JSON object. -/
  | unread
  /-- Required fields are not given. -/
  | lacking
  /-- A field that is shown as a text is a list or an object. -/
  | unshown
  /-- The number of tasks is no natural number. -/
  | uncounted
  /-- The tasks are no list. -/
  | unlisted
  /-- A task is no object. -/
  | misplaced
  /-- There are fewer tasks than announced. -/
  | short
  deriving DecidableEq, Repr

namespace Flaw

/-- The flaws in the order in which they are looked for. -/
def inOrder : List Flaw :=
  [empty, unread, lacking, unshown, uncounted, unlisted, misplaced, short]

/-- The kind of rejection for a flaw. -/
def kind : Flaw → Rejection.Kind
  | empty => .malformedEnvelope
  | unread => .malformedJson
  | lacking => .missingField
  | unshown | uncounted | unlisted | misplaced => .invalidField
  | short => .taskCountDeficit

/-- The text that is reported with a flaw: the reply itself if nothing else is left of it. -/
def source (reply : Text) : Flaw → Text
  | empty => reply
  | unread | lacking | unshown | uncounted | unlisted | misplaced | short => unfence reply

end Flaw

/-- A field is a list or an object. -/
def Unshown (fields : List (Text × Json)) (name : Text) : Prop :=
  ∃ value, Json.fieldIn? name fields = some value ∧ ¬IsScalar value

/-- A value is no object. -/
def NoObject (value : Json) : Prop := ∀ fields, value ≠ .object fields

/-- An object has a flaw, which is told by a cause. -/
inductive Faulty (fields : List (Text × Json)) : Flaw → Rejection.Cause → Prop
  /-- The names are those of the required fields that are not given, in order. -/
  | lacking {names : List Text} (some : names ≠ []) (order : names.Sublist requiredFields)
    (exact : ∀ name ∈ requiredFields, name ∈ names ↔ ¬Given fields name) :
    Faulty fields .lacking (.missing names)
  /-- The field is the first of those that are shown as texts, and its kind is told. -/
  | unshown {before : List Text} {name : Text} {value : Json}
    (first : Foremost (Unshown fields) scalarFields before name)
    (found : Json.fieldIn? name fields = some value) :
    Faulty fields .unshown (.invalid name (("expected text, got " : Text) ++ value.kindName))
  /-- The number of tasks is read, and it is no natural number. -/
  | uncounted {value : Json} {number : Option Int}
    (found : Json.fieldIn? "numberOfTasks" fields = some value)
    (read : leadingInteger value = .ok number) (none : ∀ count : Nat, number ≠ some (count : Int)) :
    Faulty fields .uncounted (.invalid "numberOfTasks"
      (("not a non-negative integer: " : Text) ++ value.literal))
  /-- The tasks are something else. -/
  | unlisted {value : Json} (found : Json.fieldIn? "tasks" fields = some value)
    (none : ∀ items, value ≠ .list items) :
    Faulty fields .unlisted (.invalid "tasks" "expected a list of task objects")
  /-- The first item of the tasks that is no object is told by its position, from 1 on. -/
  | misplaced {items before : List Json} {item : Json}
    (found : Json.fieldIn? "tasks" fields = some (.list items))
    (first : Foremost NoObject items before item) :
    Faulty fields .misplaced (.invalid "tasks"
      (("task " : Text) ++ Text.ofNat (before.length + 1) ++ " is not an object"))
  /-- So many tasks are announced, and so many listed. -/
  | short {value : Json} {expected : Nat} {items : List Json}
    (found : Json.fieldIn? "numberOfTasks" fields = some value)
    (read : leadingInteger value = .ok (some (expected : Int)))
    (listed : Json.fieldIn? "tasks" fields = some (.list items)) (fewer : items.length < expected) :
    Faulty fields .short (.deficit expected items.length)

/-- A reply has a flaw, which is told by a cause. -/
inductive Flawed (reply : Text) : Flaw → Rejection.Cause → Prop
  /-- Nothing is left within its fences. -/
  | empty (none : unfence reply = []) : Flawed reply .empty .empty
  /-- What is left cannot be read. -/
  | malformed {cause : Json.Cause} {remaining : Nat}
    (read : Json.read (unfence reply) = .error (.malformed cause remaining)) :
    Flawed reply .unread (.malformed (unfence reply) cause remaining)
  /-- It is read as a value of another kind. -/
  | notObject {value : Json} (read : Json.read (unfence reply) = .ok value)
    (other : NoObject value) : Flawed reply .unread (.notObject value.kindName)
  /-- It is read as an object with a flaw. -/
  | inside {fields : List (Text × Json)} {flaw : Flaw} {cause : Rejection.Cause}
    (read : Json.read (unfence reply) = .ok (.object fields)) (faulty : Faulty fields flaw cause) :
    Flawed reply flaw cause

/-! ## (3) A flaw has one cause -/

section Cause

variable {fields : List (Text × Json)} {reply : Text} {flaw : Flaw} {cause other : Rejection.Cause}

/-- Names of required fields that are not given are exactly the missing ones. -/
theorem eq_missingFields {names : List Text} (order : names.Sublist requiredFields)
    (exact : ∀ name ∈ requiredFields, name ∈ names ↔ ¬Given fields name) :
    names = missingFields fields := by
  refine eq_filter_of_sublist order (by decide) fun name member => ?_
  rw [exact name member, given_iff_isMissing, Bool.not_eq_false]

/-- The missing fields are those that are not given. -/
theorem faulty_lacking (missing : missingFields fields ≠ []) :
    Faulty fields .lacking (.missing (missingFields fields)) := by
  refine .lacking missing List.filter_sublist fun name member => ?_
  rw [missingFields, List.mem_filter, and_iff_right member, given_iff_isMissing,
    Bool.not_eq_false]

theorem Faulty.unique (first : Faulty fields flaw cause) (second : Faulty fields flaw other) :
    cause = other := by
  cases first with
  | lacking _ order exact =>
      cases second with
      | lacking _ order' exact' =>
          rw [eq_missingFields order exact, eq_missingFields order' exact']
  | unshown first found =>
      cases second with
      | unshown first' found' =>
          obtain ⟨rfl, rfl⟩ := first.unique first'
          obtain rfl := Option.some.inj (found.symm.trans found')
          rfl
  | uncounted found read none =>
      cases second with
      | uncounted found' _ _ =>
          obtain rfl := Option.some.inj (found.symm.trans found')
          rfl
  | unlisted _ _ =>
      cases second
      rfl
  | misplaced found first =>
      cases second with
      | misplaced found' first' =>
          obtain rfl := Json.list.inj (Option.some.inj (found.symm.trans found'))
          rw [(first.unique first').1]
  | short found read listed _ =>
      cases second with
      | short found' read' listed' _ =>
          obtain rfl := Option.some.inj (found.symm.trans found')
          obtain rfl := Json.list.inj (Option.some.inj (listed.symm.trans listed'))
          have same := Option.some.inj (Except.ok.inj (read.symm.trans read'))
          rw [Int.ofNat_inj.mp same]

theorem Flawed.unique (first : Flawed reply flaw cause) (second : Flawed reply flaw other) :
    cause = other := by
  cases first with
  | empty _ =>
      cases second with
      | empty _ => rfl
      | inside _ faulty => cases faulty
  | malformed read =>
      cases second with
      | malformed read' =>
          obtain ⟨rfl, rfl⟩ := Json.Fault.malformed.inj (Except.error.inj (read.symm.trans read'))
          rfl
      | notObject read' _ => cases read.symm.trans read'
      | inside _ faulty => cases faulty
  | notObject read _ =>
      cases second with
      | malformed read' => cases read.symm.trans read'
      | notObject read' _ => rw [Except.ok.inj (read.symm.trans read')]
      | inside _ faulty => cases faulty
  | inside read faulty =>
      cases second with
      | empty _ => cases faulty
      | malformed _ => cases faulty
      | notObject _ _ => cases faulty
      | inside read' faulty' =>
          obtain rfl := Json.object.inj (Except.ok.inj (read.symm.trans read'))
          exact faulty.unique faulty'

/-- The kind of rejection tells what the flaw is about. -/
theorem Flawed.kind_eq (flawed : Flawed reply flaw cause) : cause.kind = flaw.kind := by
  cases flawed with
  | empty _ | malformed _ | notObject _ _ => rfl
  | inside _ faulty => cases faulty <;> rfl

end Cause

/-! ## (4) Replies without a flaw -/

/-- A reply does not have a flaw. -/
def Spared (reply : Text) (flaw : Flaw) : Prop := ¬∃ cause, Flawed reply flaw cause

section Spared

variable {reply : Text} {fields : List (Text × Json)}

theorem spared_empty (filled : unfence reply ≠ []) : Spared reply .empty := by
  rintro ⟨_, none | _ | _ | ⟨_, ⟨⟩⟩⟩
  exact filled none

variable (read : Json.read (unfence reply) = .ok (.object fields))

include read

/-- What is read as an object is not empty. -/
theorem unfence_ne_nil : unfence reply ≠ [] := by
  intro none
  rw [none] at read
  cases read

/-- A flaw of what is read as an object is one of the object, or it cannot be read. -/
theorem spared_of_faulty {flaw : Flaw} (late : flaw ≠ .empty ∧ flaw ≠ .unread)
    (none : ∀ cause, ¬Faulty fields flaw cause) : Spared reply flaw := by
  rintro ⟨cause, flawed⟩
  cases flawed with
  | empty _ => exact late.1 rfl
  | malformed _ => exact late.2 rfl
  | notObject _ _ => exact late.2 rfl
  | inside read' faulty =>
      obtain rfl := Json.object.inj (Except.ok.inj (read.symm.trans read'))
      exact none cause faulty

theorem spared_unread : Spared reply .unread := by
  rintro ⟨cause, flawed⟩
  cases flawed with
  | malformed read' => cases read.symm.trans read'
  | notObject read' other =>
      obtain rfl := Except.ok.inj (read.symm.trans read')
      exact other fields rfl
  | inside _ faulty => cases faulty

theorem spared_lacking (given : ∀ name ∈ requiredFields, Given fields name) :
    Spared reply .lacking := by
  refine spared_of_faulty read (by decide) ?_
  rintro _ (⟨some, order, exact⟩ | _)
  obtain ⟨name, member⟩ := List.exists_mem_of_ne_nil _ some
  exact (exact name (order.subset member)).mp member (given name (order.subset member))

theorem spared_unshown (scalar : ∀ name ∈ scalarFields, ∀ value,
    Json.fieldIn? name fields = some value → IsScalar value) : Spared reply .unshown := by
  refine spared_of_faulty read (by decide) ?_
  rintro _ (_ | ⟨first, -⟩)
  obtain ⟨value, found, list⟩ := first.own
  exact list (scalar _ first.mem value found)

theorem spared_uncounted {value : Json} {expected : Nat}
    (found : Json.fieldIn? "numberOfTasks" fields = some value)
    (counted : leadingInteger value = .ok (some (expected : Int))) : Spared reply .uncounted := by
  refine spared_of_faulty read (by decide) ?_
  rintro _ (_ | _ | ⟨found', counted', none⟩)
  obtain rfl := Option.some.inj (found.symm.trans found')
  exact none expected (Except.ok.inj (counted'.symm.trans counted))

theorem spared_unlisted {items : List Json}
    (found : Json.fieldIn? "tasks" fields = some (.list items)) : Spared reply .unlisted := by
  refine spared_of_faulty read (by decide) ?_
  rintro _ (_ | _ | _ | ⟨found', none⟩)
  exact none items (Option.some.inj (found'.symm.trans found))

theorem spared_misplaced {listed : List (List (Text × Json))}
    (found : Json.fieldIn? "tasks" fields = some (.list (listed.map Json.object))) :
    Spared reply .misplaced := by
  refine spared_of_faulty read (by decide) ?_
  rintro _ (_ | _ | _ | _ | ⟨found', first⟩)
  obtain rfl := Json.list.inj (Option.some.inj (found.symm.trans found'))
  obtain ⟨inner, -, same⟩ := List.mem_map.mp first.mem
  exact first.own inner same.symm

/-- A reply that describes an assignment has no flaw. -/
theorem spared_of_describes {expected : Nat} {listed : List (List (Text × Json))}
    (describes : Describes fields expected listed) (flaw : Flaw) : Spared reply flaw := by
  obtain ⟨value, found, counted⟩ := describes.counted
  cases flaw with
  | empty => exact spared_empty (unfence_ne_nil read)
  | unread => exact spared_unread read
  | lacking => exact spared_lacking read describes.given
  | unshown => exact spared_unshown read describes.scalar
  | uncounted => exact spared_uncounted read found counted
  | unlisted => exact spared_unlisted read describes.tasks
  | misplaced => exact spared_misplaced read describes.tasks
  | short =>
      refine spared_of_faulty read (by decide) ?_
      rintro _ (_ | _ | _ | _ | _ | ⟨found', counted', tasks, fewer⟩)
      obtain rfl := Option.some.inj (found.symm.trans found')
      have same := Option.some.inj (Except.ok.inj (counted.symm.trans counted'))
      obtain rfl := Int.ofNat_inj.mp same
      obtain rfl := Json.list.inj (Option.some.inj (describes.tasks.symm.trans tasks))
      rw [List.length_map] at fewer
      exact absurd describes.enough (Nat.not_le.mpr fewer)

end Spared

/-! ## (5) The steps of the validation -/

section Steps

variable {fields : List (Text × Json)} {unfenced : Text} {failure : Failure}

/-- A field that is not used as a text is unshown. -/
theorem faulty_unshown {before after : List Text} {name : Text}
    (split : scalarFields = before ++ name :: after)
    (earlier : ∀ other ∈ before, ¬Unshown fields other)
    (failed : scalar fields name unfenced = .error failure) :
    ∃ cause, Faulty fields .unshown cause ∧ failure = .rejected ⟨cause, .text unfenced⟩ := by
  obtain ⟨value, found, unused, rfl⟩ : ∃ value, Json.fieldIn? name fields = some value ∧
      ¬IsScalar value ∧ failure = .rejected
        ⟨.invalid name (("expected text, got " : Text) ++ value.kindName), .text unfenced⟩ := by
    rw [scalar] at failed
    split at failed
    · cases failed
    · rename_i items found
      cases failed
      exact ⟨_, found, fun scalar => scalar.1 items rfl, rfl⟩
    · rename_i inner found
      cases failed
      exact ⟨_, found, fun scalar => scalar.2 inner rfl, rfl⟩
    · cases failed
  exact ⟨_, .unshown ⟨⟨after, split⟩, ⟨value, found, unused⟩, earlier⟩ found, rfl⟩

/-- A field that is used as a text is not. -/
theorem not_unshown_of_scalar (given : ∀ name ∈ requiredFields, Given fields name) {name : Text}
    {value : Json} (member : name ∈ scalarFields)
    (used : scalar fields name unfenced = .ok value) : ¬Unshown fields name := by
  rintro ⟨other, found, unused⟩
  exact unused (isScalar_of_scalar given member used other found)

/-- A number of tasks that is read and not announced is no natural number. -/
theorem faulty_uncounted {value : Json} {number : Option Int}
    (found : Json.fieldIn? "numberOfTasks" fields = some value)
    (read : leadingInteger value = .ok number)
    (failed : announced unfenced value = .error failure) :
    ∃ cause, Faulty fields .uncounted cause ∧ failure = .rejected ⟨cause, .text unfenced⟩ := by
  have none : ∀ count : Nat, number ≠ some (count : Int) := by
    rintro count rfl
    have counted : announced unfenced value = .ok count := announced_eq_ok_iff.mpr read
    cases failed.symm.trans counted
  rw [announced, read] at failed
  rcases number with _ | (count | count)
  · cases failed
    exact ⟨_, .uncounted found read none, rfl⟩
  · exact absurd rfl (none count)
  · cases failed
    exact ⟨_, .uncounted found read none, rfl⟩

/-- Items that are not all tasks have a first one that is no object. -/
theorem exists_of_tasksFrom {position : Nat} {items : List Json}
    (failed : tasksFrom unfenced position items = .error failure) :
    ∃ before item, Foremost NoObject items before item ∧
      failure = .rejected ⟨.invalid "tasks" (("task " : Text) ++
        Text.ofNat (position + before.length) ++ " is not an object"), .text unfenced⟩ := by
  induction items generalizing position with
  | nil => cases failed
  | cons item items ih =>
      cases item with
      | object fields =>
          rw [tasksFrom] at failed
          cases rest : tasksFrom unfenced (position + 1) items with
          | ok _ =>
              rw [rest] at failed
              cases failed
          | error other =>
              rw [rest] at failed
              cases failed
              obtain ⟨before, item, ⟨⟨after, rfl⟩, own, earlier⟩, rfl⟩ := ih rest
              refine ⟨.object fields :: before, item, ⟨⟨after, rfl⟩, own, ?_⟩, ?_⟩
              · exact List.forall_mem_cons.mpr ⟨fun none => none fields rfl, earlier⟩
              · rw [List.length_cons, Nat.add_assoc, Nat.add_comm 1]
      | null | bool _ | int _ | float _ | text _ | list _ =>
          cases failed
          exact ⟨[], _, ⟨⟨items, rfl⟩, by rintro _ ⟨⟩, fun _ h => absurd h List.not_mem_nil⟩, rfl⟩

/-- Tasks that are of no use are no list or have an item that is no object. -/
theorem faulty_tasks {value : Json} (found : Json.fieldIn? "tasks" fields = some value)
    (failed : tasks unfenced value = .error failure) :
    (∃ cause, Faulty fields .unlisted cause ∧ failure = .rejected ⟨cause, .text unfenced⟩) ∨
      ∃ items cause, value = .list items ∧ Faulty fields .misplaced cause ∧
        failure = .rejected ⟨cause, .text unfenced⟩ := by
  cases value with
  | list items =>
      obtain ⟨before, item, first, rfl⟩ := exists_of_tasksFrom failed
      rw [Nat.add_comm 1]
      exact .inr ⟨items, _, rfl, .misplaced found first, rfl⟩
  | null | bool _ | int _ | float _ | text _ | object _ =>
      cases failed
      exact .inl ⟨_, .unlisted found (by rintro _ ⟨⟩), rfl⟩

end Steps

/-! ## (6) The first flaw -/

/-- A flaw of a reply before which it has no other, and the cause that tells it. -/
structure FirstFlaw (reply : Text) (flaw : Flaw) (cause : Rejection.Cause) : Prop where
  /-- Among all flaws it is the first that the reply has. -/
  first : ∃ before, Foremost (fun flaw => ∃ cause, Flawed reply flaw cause) Flaw.inOrder before flaw
  /-- The cause is its own. -/
  told : Flawed reply flaw cause

/-- A reply is stopped for its first flaw. -/
def StoppedFor (reply : Text) (failure : Failure) : Prop :=
  ∃ flaw cause, FirstFlaw reply flaw cause ∧
    failure = .rejected ⟨cause, .text (flaw.source reply)⟩

section First

variable {reply : Text} {failure : Failure}

/-- A flaw is the first if the reply has none of those before it in the order. -/
theorem Flawed.stoppedFor {flaw : Flaw} {cause : Rejection.Cause}
    (flawed : Flawed reply flaw cause) (before : List Flaw) {after : List Flaw}
    (split : Flaw.inOrder = before ++ flaw :: after)
    (spared : ∀ earlier ∈ before, Spared reply earlier)
    (same : failure = .rejected ⟨cause, .text (flaw.source reply)⟩) : StoppedFor reply failure :=
  ⟨flaw, cause, ⟨⟨before, ⟨after, split⟩, ⟨cause, flawed⟩, spared⟩, flawed⟩, same⟩

section Object

variable {fields : List (Text × Json)} (read : Json.read (unfence reply) = .ok (.object fields))

include read

/-- Given fields of which one is not used as a text are stopped for the first such field. -/
theorem stoppedFor_of_scalar (given : ∀ name ∈ requiredFields, Given fields name)
    (before : List Text) {after : List Text} {name : Text}
    (split : scalarFields = before ++ name :: after)
    (earlier : ∀ other ∈ before, ¬Unshown fields other)
    (failed : scalar fields name (unfence reply) = .error failure) : StoppedFor reply failure := by
  obtain ⟨cause, faulty, rfl⟩ := faulty_unshown split earlier failed
  refine (Flawed.inside read faulty).stoppedFor [.empty, .unread, .lacking] rfl ?_ rfl
  simpa using ⟨spared_empty (unfence_ne_nil read), spared_unread read, spared_lacking read given⟩

/-- Given fields that are used as texts are stopped for the number of tasks or for the tasks. -/
theorem stoppedFor_of_tasks (given : ∀ name ∈ requiredFields, Given fields name)
    (scalar : ∀ name ∈ scalarFields, ∀ value,
      Json.fieldIn? name fields = some value → IsScalar value) (legible : ¬LongCount fields)
    {number items : Json} (foundNumber : Json.fieldIn? "numberOfTasks" fields = some number)
    (foundItems : Json.fieldIn? "tasks" fields = some items)
    (failed : announced (unfence reply) number = .error failure ∨
      ∃ expected, announced (unfence reply) number = .ok expected ∧
        (tasks (unfence reply) items = .error failure ∨
          ∃ listed, tasks (unfence reply) items = .ok listed ∧ listed.length < expected ∧
            failure = .rejected ⟨.deficit expected listed.length, .text (unfence reply)⟩)) :
    StoppedFor reply failure := by
  have filled := spared_empty (unfence_ne_nil read)
  have decoded := spared_unread read
  have present := spared_lacking read given
  have shown := spared_unshown read scalar
  rcases failed with failed | ⟨expected, counted, failed⟩
  · cases leading : leadingInteger number with
    | error other =>
        obtain ⟨spelled, digits, rfl, long, -⟩ := exists_of_leadingInteger_error leading
        exact absurd ⟨given, scalar, spelled, digits, foundNumber, long⟩ legible
    | ok count =>
        obtain ⟨cause, faulty, rfl⟩ := faulty_uncounted foundNumber leading failed
        refine (Flawed.inside read faulty).stoppedFor
          [.empty, .unread, .lacking, .unshown] rfl ?_ rfl
        simpa using ⟨filled, decoded, present, shown⟩
  rw [announced_eq_ok_iff] at counted
  have numbered := spared_uncounted read foundNumber counted
  rcases failed with failed | ⟨listed, hlisted, fewer, rfl⟩
  · rcases faulty_tasks foundItems failed with
      ⟨cause, faulty, rfl⟩ | ⟨entries, cause, rfl, faulty, rfl⟩
    · refine (Flawed.inside read faulty).stoppedFor
        [.empty, .unread, .lacking, .unshown, .uncounted] rfl ?_ rfl
      simpa using ⟨filled, decoded, present, shown, numbered⟩
    · refine (Flawed.inside read faulty).stoppedFor
        [.empty, .unread, .lacking, .unshown, .uncounted, .unlisted] rfl ?_ rfl
      simpa using ⟨filled, decoded, present, shown, numbered, spared_unlisted read foundItems⟩
  · obtain ⟨objects, rfl, rfl⟩ := tasks_eq_ok_iff.mp hlisted
    rw [List.length_map] at fewer ⊢
    have faulty : Faulty fields .short (.deficit expected (objects.map Json.object).length) :=
      .short foundNumber counted foundItems (by rwa [List.length_map])
    rw [List.length_map] at faulty
    refine (Flawed.inside read faulty).stoppedFor
      [.empty, .unread, .lacking, .unshown, .uncounted, .unlisted, .misplaced] rfl ?_ rfl
    simpa using ⟨filled, decoded, present, shown, numbered, spared_unlisted read foundItems,
      spared_misplaced read foundItems⟩

/-- An object that gives no assignment is stopped for the first flaw, if its numerals are read. -/
theorem stoppedFor_of_assemble (legible : ¬LongCount fields)
    (failed : assemble (unfence reply) fields = .error failure) : StoppedFor reply failure := by
  simp only [assemble, Outcome.unless_eq_error_iff, Outcome.bind_eq_error_iff] at failed
  rcases failed with ⟨missing, rfl⟩ | ⟨missing, failed⟩
  · have faulty : Faulty fields .lacking _ := faulty_lacking (by simpa using missing)
    refine (Flawed.inside read faulty).stoppedFor [.empty, .unread] rfl ?_ rfl
    simpa using ⟨spared_empty (unfence_ne_nil read), spared_unread read⟩
  have given := missingFields_eq_nil_iff.mp (by simpa using missing)
  have used {name : Text} {value : Json} (member : name ∈ scalarFields)
      (used : scalar fields name (unfence reply) = .ok value) : ¬Unshown fields name :=
    not_unshown_of_scalar given member used
  -- the fields are looked at one after the other
  rcases failed with failed | ⟨_, title, failed⟩
  · exact stoppedFor_of_scalar read given [] rfl (by simp) failed
  have title := used (by decide) title
  rcases failed with failed | ⟨_, deadline, failed⟩
  · exact stoppedFor_of_scalar read given ["title"] rfl (by simpa using title) failed
  have deadline := used (by decide) deadline
  rcases failed with failed | ⟨_, marks, failed⟩
  · exact stoppedFor_of_scalar read given ["title", "deadline"] rfl
      (by simpa using ⟨title, deadline⟩) failed
  have marks := used (by decide) marks
  rcases failed with failed | ⟨_, criteria, failed⟩
  · exact stoppedFor_of_scalar read given ["title", "deadline", "totalMarksWeightage"] rfl
      (by simpa using ⟨title, deadline, marks⟩) failed
  have criteria := used (by decide) criteria
  have shown : ∀ name ∈ scalarFields, ¬Unshown fields name := by
    simpa [scalarFields] using ⟨title, deadline, marks, criteria⟩
  obtain ⟨number, foundNumber, -⟩ := given "numberOfTasks" (by decide)
  obtain ⟨items, foundItems, -⟩ := given "tasks" (by decide)
  rw [foundNumber, foundItems, Option.getD_some, Option.getD_some] at failed
  refine stoppedFor_of_tasks read given ?_ legible foundNumber foundItems ?_
  · intro name member value found
    by_contra unused
    exact shown name member ⟨value, found, unused⟩
  · refine failed.imp_right ?_
    rintro ⟨expected, counted, failed | ⟨listed, hlisted, ⟨fewer, rfl⟩ | ⟨-, failed⟩⟩⟩
    · exact ⟨expected, counted, .inl failed⟩
    · exact ⟨expected, counted, .inr ⟨listed, hlisted, fewer, rfl⟩⟩
    · cases failed

end Object

/-- A reply that is not accepted is stopped for its first flaw, if its numerals are read. -/
theorem stoppedFor_of_validate (legible : ¬Overlong reply)
    (failed : validate (.text reply) = .error failure) : StoppedFor reply failure := by
  have steps : validate (.text reply) =
      decodeUnfenced (unfence reply) (.text reply) >>= assemble (unfence reply) := rfl
  rw [steps, decodeUnfenced] at failed
  by_cases empty : unfence reply = []
  · rw [empty] at failed
    cases failed
    exact (Flawed.empty empty).stoppedFor [] rfl (by simp) rfl
  have filled : ¬(unfence reply).isEmpty = true := by rwa [List.isEmpty_iff]
  have spared : ∀ earlier ∈ [Flaw.empty], Spared reply earlier := by
    simpa using spared_empty empty
  rw [if_neg filled] at failed
  cases read : Json.read (unfence reply) with
  | error fault =>
      rw [read] at failed
      cases fault with
      | malformed cause remaining =>
          cases failed
          exact (Flawed.malformed read).stoppedFor [.empty] rfl spared rfl
      | longNumeral digits => exact absurd (.numeral read) legible
  | ok value =>
      rw [read] at failed
      cases value with
      | object fields =>
          exact stoppedFor_of_assemble read (fun long => legible (.count read long)) failed
      | null | bool _ | int _ | float _ | text _ | list _ =>
          cases failed
          exact (Flawed.notObject read (by rintro _ ⟨⟩)).stoppedFor [.empty] rfl
            spared rfl

/-- A reply is stopped for one reason only. -/
theorem StoppedFor.unique {other : Failure} (stopped : StoppedFor reply failure)
    (again : StoppedFor reply other) : failure = other := by
  obtain ⟨flaw, cause, ⟨⟨before, first⟩, told⟩, rfl⟩ := stopped
  obtain ⟨flaw', cause', ⟨⟨before', first'⟩, told'⟩, rfl⟩ := again
  obtain ⟨-, rfl⟩ := first.unique first'
  rw [told.unique told']

/-- A reply with a flaw is not accepted. -/
theorem StoppedFor.not_accepted (stopped : StoppedFor reply failure) (accepted : Accepted) :
    validate (.text reply) ≠ .ok accepted := by
  intro valid
  obtain ⟨fields, expected, listed, ⟨⟨text, same, read⟩, describes⟩, -⟩ :=
    validate_eq_ok_iff.mp valid
  obtain rfl := Except.ok.inj same
  obtain ⟨flaw, cause, ⟨-, told⟩, -⟩ := stopped
  exact spared_of_describes read describes flaw ⟨cause, told⟩

theorem validate_eq_error_iff (legible : ¬Overlong reply) :
    validate (.text reply) = .error failure ↔ StoppedFor reply failure := by
  refine ⟨stoppedFor_of_validate legible, fun stopped => ?_⟩
  cases h : validate (.text reply) with
  | ok accepted => exact absurd h (stopped.not_accepted accepted)
  | error other => rw [(stoppedFor_of_validate legible h).unique stopped]

end First

/-- **A reply is rejected for its first flaw.** With numerals that are read, a reply fails exactly
if it has a flaw, and with the first of them in the order: nothing is left within its fences, what
is left is no JSON object, required fields are not given, a field to be shown is a list or an
object, the number of tasks is no natural number, the tasks are no list, one of them is no object,
there are fewer than announced. The cause is that of this flaw, its kind tells what the flaw is
about, the text reported is the one within the fences, or the reply if nothing is left of it; and
what was noticed before stays as it was. -/
theorem validateInto_eq_error_iff {reply : Text} (legible : ¬Overlong reply)
    (noticed after : List Diagnostic) (failure : Failure) :
    validateInto noticed (.text reply) = (.error failure, after) ↔
      after = noticed ∧ ∃ flaw cause, FirstFlaw reply flaw cause ∧ cause.kind = flaw.kind ∧
        failure = .rejected ⟨cause, .text (flaw.source reply)⟩ := by
  have kinds : StoppedFor reply failure ↔ ∃ flaw cause, FirstFlaw reply flaw cause ∧
      cause.kind = flaw.kind ∧ failure = .rejected ⟨cause, .text (flaw.source reply)⟩ := by
    refine exists_congr fun flaw => exists_congr fun cause => and_congr_right fun first => ?_
    exact (and_iff_right first.told.kind_eq).symm
  rw [← kinds, ← validate_eq_error_iff legible, validateInto]
  cases validate (.text reply) with
  | ok accepted => simp
  | error other => simp [eq_comm, and_comm]

/-- An object with several flaws. -/
def flawedContent : Text := "\x7b\"title\":\" \",\"deadline\":[],\"tasks\":0\x7d"

/-- The fields that are not given come before the list and the tasks that are none. -/
theorem validateInto_eq_error_iff_fenced :
    let reply : Text := ("```json\n" : Text) ++ flawedContent ++ "\n```"
    let cause : Rejection.Cause :=
      .missing ["title", "totalMarksWeightage", "evaluationCriteria", "numberOfTasks"]
    FirstFlaw reply .lacking cause ∧ validateInto [.surplus 1 2] (.text reply) =
      (.error (.rejected ⟨cause, .text flawedContent⟩), [.surplus 1 2]) := by
  have object : Json.read flawedContent = .ok (.object
      [("title", .text " "), ("deadline", .list []), ("tasks", .int 0)]) := by cbv
  have missing : missingFields
      [("title", .text " "), ("deadline", .list []), ("tasks", .int 0)] =
        ["title", "totalMarksWeightage", "evaluationCriteria", "numberOfTasks"] := by
    decide +kernel
  intro reply cause
  have within : unfence reply = flawedContent := by decide +kernel
  have read := (congrArg Json.read within).trans object
  have legible : ¬Overlong reply := by
    refine not_overlong_of_read read (by rintro _ ⟨⟩) ?_
    rintro _ ⟨⟩ long
    cases missing.symm.trans (missingFields_eq_nil_iff.mpr long.given)
  have told : Flawed reply .lacking cause := by
    have faulty := faulty_lacking (ne_of_eq_of_ne missing (List.cons_ne_nil _ _))
    rw [missing] at faulty
    exact .inside read faulty
  have first : FirstFlaw reply .lacking cause := by
    refine ⟨⟨[.empty, .unread], ⟨_, rfl⟩, ⟨cause, told⟩, ?_⟩, told⟩
    exact List.forall_mem_cons.mpr ⟨spared_empty (unfence_ne_nil read),
      List.forall_mem_singleton.mpr (spared_unread read)⟩
  refine ⟨first, (validateInto_eq_error_iff legible _ _ _).mpr
    ⟨rfl, .lacking, cause, first, rfl, ?_⟩⟩
  rw [Flaw.source, within]

end Reply

end Coursework
