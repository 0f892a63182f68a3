import Coursework.Form.Scalar
import Coursework.Store.Rows

/-! # The store

The store keeps classrooms and assignments in the order of their numbers. A new row gets the
number after the largest one in use; a classroom that is removed takes its assignments with it.

* **`Store`** is the type; **`Store.classroom?`**, **`Store.assignment?`** and
  **`Store.assignmentsOf`** look into it.
* **`Store.addClassroom`**, **`Store.addAssignment`**, **`Store.setStatus`** and
  **`Store.removeClassroom`** change it. -/

namespace Coursework

/-- Classrooms and assignments. -/
structure Store where
  /-- The classrooms. -/
  classrooms : List Classroom := []
  /-- The assignments. -/
  assignments : List Assignment := []

namespace Store

/-! ## (1) Looking -/

/-- The classroom of a number. -/
def classroom? (store : Store) (id : Int) : Option Classroom :=
  store.classrooms.find? (·.id = id)

/-- The assignment of a number. -/
def assignment? (store : Store) (id : Int) : Option Assignment :=
  store.assignments.find? (·.id = id)

/-- The assignments of a classroom. -/
def assignmentsOf (store : Store) (classroom : Int) : List Assignment :=
  store.assignments.filter (·.classroom = classroom)

/-! ## (2) Numbers -/

/-- The number after the largest one. -/
def nextId (ids : List Int) : Int :=
  match ids.max? with
  | some largest => largest + 1
  | none => 1

/-- Rows with one more, at the place of its number. -/
def insertRow {α : Type} (number : α → Int) (row : α) : List α → List α
  | [] => [row]
  | other :: rows =>
    if number row < number other then row :: other :: rows
    else other :: insertRow number row rows

/-- The next number is larger than every number in use. -/
theorem lt_nextId {ids : List Int} {id : Int} (used : id ∈ ids) : id < nextId ids := by
  unfold nextId
  cases largest : ids.max? with
  | none => simp_all
  | some top =>
    have := (List.max?_eq_some_iff.mp largest).2 id used
    simp only
    omega

/-- A row whose number is the largest comes last. -/
theorem insertRow_eq_append {α : Type} (number : α → Int) (row : α) (rows : List α)
    (largest : ∀ other ∈ rows, number other ≤ number row) :
    insertRow number row rows = rows ++ [row] := by
  induction rows with
  | nil => rfl
  | cons other rows ih =>
    have := largest other (by simp)
    have := ih fun next member => largest next (by simp [member])
    simp only [insertRow, List.cons_append]
    split
    · omega
    · simp_all

/-! ## (3) Changing -/

/-- The store with a classroom more. -/
def addClassroom (store : Store) (classroom : Classroom) : Store :=
  { store with classrooms := insertRow Classroom.id classroom store.classrooms }

/-- The store with an assignment more. -/
def addAssignment (store : Store) (assignment : Assignment) : Store :=
  { store with assignments := insertRow Assignment.id assignment store.assignments }

/-- The number of the next classroom. -/
def nextClassroom (store : Store) : Int := nextId (store.classrooms.map Classroom.id)

/-- The number of the next assignment. -/
def nextAssignment (store : Store) : Int := nextId (store.assignments.map Assignment.id)

/-- The store with another status of an assignment. -/
def setStatus (store : Store) (id : Int) (status : Status) : Store :=
  { store with
    assignments := store.assignments.map fun assignment =>
      if assignment.id = id then { assignment with status } else assignment }

/-- The store without a classroom and its assignments. -/
def removeClassroom (store : Store) (id : Int) : Store where
  classrooms := store.classrooms.filter (·.id ≠ id)
  assignments := store.assignments.filter (·.classroom ≠ id)

/-! ## (4) What a change leaves alone -/

/-- A new assignment leaves the classrooms alone. -/
@[simp] theorem classrooms_addAssignment (store : Store) (assignment : Assignment) :
    (store.addAssignment assignment).classrooms = store.classrooms := rfl

/-- A new classroom leaves the assignments alone. -/
@[simp] theorem assignments_addClassroom (store : Store) (classroom : Classroom) :
    (store.addClassroom classroom).assignments = store.assignments := rfl

/-- Another status leaves the classrooms alone. -/
@[simp] theorem classrooms_setStatus (store : Store) (id : Int) (status : Status) :
    (store.setStatus id status).classrooms = store.classrooms := rfl

/-- Another status leaves the numbers alone. -/
@[simp] theorem map_id_setStatus (store : Store) (id : Int) (status : Status) :
    (store.setStatus id status).assignments.map Assignment.id =
      store.assignments.map Assignment.id := by
  simp only [setStatus, List.map_map]
  congr 1
  funext assignment
  simp only [Function.comp_apply]
  split <;> rfl

/-- A new assignment with the next number comes last. -/
theorem assignments_addAssignment (store : Store) (assignment : Assignment)
    (next : assignment.id = store.nextAssignment) :
    (store.addAssignment assignment).assignments = store.assignments ++ [assignment] := by
  refine insertRow_eq_append _ _ _ fun other member => ?_
  have := lt_nextId (List.mem_map_of_mem (f := Assignment.id) member)
  rw [next]
  exact Int.le_of_lt this

/-! ## (5) The whole store -/

/-- All rows with all columns. -/
def toJson (store : Store) : Json :=
  .object [("assignments", .list (store.assignments.map Assignment.toJson)),
    ("classrooms", .list (store.classrooms.map Classroom.toJson))]

/-- The short forms of all rows. -/
def display (store : Store) : Json :=
  .object [("assignments", Json.texts (store.assignments.map Assignment.display)),
    ("classrooms", Json.texts (store.classrooms.map Classroom.display))]

end Store

end Coursework
