import Coursework.Proofs.Outcome
import Coursework.Store.Access

/-! # Rows in the order of their numbers

The numbers of the rows of a store ascend, so that each row is the one that its number finds, and
a new status is that of one row only.

* **`Store.Ascending`** is the order, which every change keeps.
* **`Store.Ascending.assignment?_iff`** and **`Store.Ascending.classroom?_iff`** are about looking
  rows up, **`Store.Ascending.setStatus`** about the one row that changes. -/

namespace Coursework

namespace Store

/-! ## (1) Looking with numbers that fit -/

section Looking

variable {store : Store} {id : Int}

theorem map_checkNumber_eq_ok_iff {α : Type} {find : Unit → α} {found : α} :
    (checkNumber id).map find = .ok found ↔ Form.fitsWord id = true ∧ find () = found := by
  rw [checkNumber]
  cases Form.fitsWord id with
  | true => exact ⟨fun h => ⟨rfl, Except.ok.inj h⟩, fun h => congrArg Except.ok h.2⟩
  | false => exact iff_of_false (fun h => by cases h) (fun h => by cases h.1)

theorem findClassroom_eq_ok_iff {found : Option Classroom} :
    store.findClassroom id = .ok found ↔
      Form.fitsWord id = true ∧ store.classroom? id = found :=
  map_checkNumber_eq_ok_iff

theorem findAssignment_eq_ok_iff {found : Option Assignment} :
    store.findAssignment id = .ok found ↔
      Form.fitsWord id = true ∧ store.assignment? id = found :=
  map_checkNumber_eq_ok_iff

theorem findAssignmentsOf_eq_ok_iff {found : List Assignment} :
    store.findAssignmentsOf id = .ok found ↔
      Form.fitsWord id = true ∧ store.assignmentsOf id = found :=
  map_checkNumber_eq_ok_iff

end Looking

/-! ## (2) The order -/

/-- The numbers of the classrooms ascend, and so do those of the assignments. -/
structure Ascending (store : Store) : Prop where
  /-- The classrooms. -/
  classrooms : store.classrooms.Pairwise (·.id < ·.id)
  /-- The assignments. -/
  assignments : store.assignments.Pairwise (·.id < ·.id)

theorem ascending_empty : Ascending {} := ⟨.nil, .nil⟩

/-- A new classroom comes last. -/
theorem classrooms_addClassroom (store : Store) (classroom : Classroom)
    (next : classroom.id = store.nextClassroom) :
    (store.addClassroom classroom).classrooms = store.classrooms ++ [classroom] := by
  refine insertRow_eq_append _ _ _ fun other member => ?_
  have := lt_nextId (List.mem_map_of_mem (f := Classroom.id) member)
  rw [next]
  exact Int.le_of_lt this

/-- Other statuses are those of the same rows. -/
theorem assignments_setStatus (store : Store) (id : Int) (status : Status) :
    (store.setStatus id status).assignments = store.assignments.map fun assignment =>
      if assignment.id = id then { assignment with status } else assignment := rfl

namespace Ascending

variable {store : Store}

theorem addClassroom (ascending : store.Ascending) {classroom : Classroom}
    (next : classroom.id = store.nextClassroom) : (store.addClassroom classroom).Ascending where
  classrooms := by
    rw [classrooms_addClassroom store classroom next, List.pairwise_append]
    refine ⟨ascending.classrooms, List.pairwise_singleton _ _, fun other member last h => ?_⟩
    rw [List.mem_singleton.mp h, next]
    exact lt_nextId (List.mem_map_of_mem member)
  assignments := ascending.assignments

theorem addAssignment (ascending : store.Ascending) {assignment : Assignment}
    (next : assignment.id = store.nextAssignment) :
    (store.addAssignment assignment).Ascending where
  classrooms := ascending.classrooms
  assignments := by
    rw [store.assignments_addAssignment assignment next, List.pairwise_append]
    refine ⟨ascending.assignments, List.pairwise_singleton _ _, fun other member last h => ?_⟩
    rw [List.mem_singleton.mp h, next]
    exact lt_nextId (List.mem_map_of_mem member)

theorem setStatus (ascending : store.Ascending) (id : Int) (status : Status) :
    (store.setStatus id status).Ascending where
  classrooms := ascending.classrooms
  assignments := by
    have kept := List.pairwise_map.mpr ascending.assignments
    rw [← map_id_setStatus store id status] at kept
    exact List.pairwise_map.mp kept

/-! ## (3) The row of a number -/

/-- In ascending rows, a number finds the row that has it. -/
theorem find?_iff {α : Type} {number : α → Int} {rows : List α} {id : Int} {row : α}
    (ascending : rows.Pairwise (number · < number ·)) :
    rows.find? (number · = id) = some row ↔ row ∈ rows ∧ number row = id := by
  induction ascending with
  | nil => simp
  | @cons first rows below _ ih =>
      rw [List.find?_cons]
      by_cases same : number first = id
      · rw [decide_eq_true same, Option.some.injEq, List.mem_cons]
        constructor
        · rintro rfl
          exact ⟨.inl rfl, same⟩
        · rintro ⟨rfl | member, h⟩
          · rfl
          · have := below row member
            omega
      · rw [decide_eq_false same, ih, List.mem_cons]
        constructor
        · rintro ⟨member, h⟩
          exact ⟨.inr member, h⟩
        · rintro ⟨rfl | member, h⟩
          · exact absurd h same
          · exact ⟨member, h⟩

theorem classroom?_iff (ascending : store.Ascending) {id : Int} {classroom : Classroom} :
    store.classroom? id = some classroom ↔ classroom ∈ store.classrooms ∧ classroom.id = id :=
  find?_iff ascending.classrooms

theorem assignment?_iff (ascending : store.Ascending) {id : Int} {assignment : Assignment} :
    store.assignment? id = some assignment ↔
      assignment ∈ store.assignments ∧ assignment.id = id :=
  find?_iff ascending.assignments

/-- A new status is that of one row; all others stay as they are. -/
theorem setStatus_eq (ascending : store.Ascending) {row : Assignment}
    (member : row ∈ store.assignments) (status : Status) :
    ∃ earlier later, store.assignments = earlier ++ row :: later ∧
      store.setStatus row.id status =
        { store with assignments := earlier ++ { row with status } :: later } := by
  obtain ⟨earlier, later, split⟩ := List.append_of_mem member
  have order := ascending.assignments
  rw [split, List.pairwise_append, List.pairwise_cons] at order
  obtain ⟨-, ⟨above, -⟩, below⟩ := order
  have kept (rows : List Assignment) (others : ∀ other ∈ rows, other.id ≠ row.id) :
      (rows.map fun other => if other.id = row.id then { other with status } else other) =
        rows :=
    (List.map_congr_left fun other h => if_neg (others other h)).trans (List.map_id rows)
  refine ⟨earlier, later, split, ?_⟩
  rw [Store.setStatus, split, List.map_append, List.map_cons, if_pos rfl,
    kept earlier fun other h => Int.ne_of_lt (below other h row List.mem_cons_self),
    kept later fun other h => Int.ne_of_gt (above other h)]

end Ascending

end Store

end Coursework
