import Coursework.Proofs.Api.Creation
import Coursework.Proofs.Api.Routes
import Coursework.Proofs.Remote.Mailing

/-! # How the work on an approval ends

The approval of an assignment looks up its row and the classroom of that row, tells the students
of the classroom one after another and, when all are told, marks the row.

* **`Concerns`** is what is looked up.
* **`Approval`** lists how far the work comes; **`ends_approveAssignment`** shows that there is no
  other way. -/

namespace Coursework.Api

open Remote (Attempt Educator Telling exchangedIn)

/-! ## (1) What is looked up -/

/-- An approval is about a row whose classroom is there and has students. -/
structure Concerns (store : Store) (id : Int) (row : Assignment) (classroom : Classroom) :
    Prop where
  /-- The number is that of the row. -/
  found : store.findAssignment id = .ok (some row)
  /-- The row is in the classroom. -/
  placed : store.findClassroom row.classroom = .ok (some classroom)
  /-- There is somebody to be told. -/
  peopled : classroom.readers ≠ []

/-- It is about one row and one classroom. -/
theorem Concerns.unique {store : Store} {id : Int} {row other : Assignment}
    {classroom elsewhere : Classroom} (concerns : Concerns store id row classroom)
    (again : Concerns store id other elsewhere) : row = other ∧ classroom = elsewhere := by
  have same := concerns.found.symm.trans again.found
  rw [Except.ok.injEq, Option.some.injEq] at same
  subst same
  have same := concerns.placed.symm.trans again.placed
  rw [Except.ok.injEq, Option.some.injEq] at same
  exact ⟨rfl, same⟩

/-- The response to an approval. -/
def approvedResponse : Web.Response where
  status := 200
  content := .json (.object [("message", .text "Assignment approved and notifications sent")])

/-! ## (2) The whole work -/

/-- How far the work on an approval comes: what becomes of the messages to the students, how it
ends, and what the store is then. -/
inductive Approval (store : Store) (educator : Educator) (id : Int) :
    List Attempt → Except Stop Web.Response → Store → Prop
  /-- There is no row, or nobody to be told. -/
  | unplaced {reason : Stop} (homeless : ∀ row classroom, ¬Concerns store id row classroom) :
    Approval store educator id [] (.error reason) store
  /-- Not all students are told. -/
  | untold {row : Assignment} {classroom : Classroom} {attempts : List Attempt}
    {failure : Failure} (concerns : Concerns store id row classroom)
    (course : Telling (noticeFor educator row) classroom.readers attempts (.error failure)) :
    Approval store educator id attempts (.error (Stop.ofRemote failure)) store
  /-- They are, and the row is marked. -/
  | approved {row : Assignment} {classroom : Classroom} {attempts : List Attempt}
    (concerns : Concerns store id row classroom)
    (course : Telling (noticeFor educator row) classroom.readers attempts (.ok ())) :
    Approval store educator id attempts (.ok approvedResponse) (store.setStatus id .approved)

/-- How the work ends once it is known whom it concerns. -/
theorem approval_of_ends {educator : Educator} {id : Int} {row : Assignment}
    {classroom : Classroom} {world after : World} {result : Except Stop Web.Response}
    (hasToken : educator.token ≠ []) (concerns : Concerns world.store id row classroom)
    (ends : Ends (do
        Work.exchange (tellAll educator row classroom.readers)
        Work.change (Store.setStatus · id .approved)
        return approvedResponse) world result after) :
    ∃ attempts, Approval world.store educator id attempts result after.store ∧
      (Work.session world).repliesTo ((exchangedIn attempts).map Prod.fst) =
        (exchangedIn attempts).map Prod.snd ∧
      after.log = world.log ++ (exchangedIn attempts).map (Call.request ∘ Prod.fst) := by
  rw [ends_bind_iff] at ends
  simp only [Work.ends_exchange_iff] at ends
  rcases ends with ⟨_, _, ⟨outcome, later, told, ok, rfl⟩, ends⟩ |
    ⟨reason, ⟨outcome, later, untold, stopped, rfl⟩, rfl⟩
  · obtain rfl := Outcome.mapError_eq_ok_iff.mp ok.symm
    obtain ⟨attempts, exchanges, course⟩ := Remote.ends_forM_send hasToken told
    rw [ends_bind_iff] at ends
    simp only [Work.ends_change_iff, ends_pure_iff] at ends
    rcases ends with ⟨_, _, ⟨-, rfl⟩, rfl, rfl⟩ | ⟨_, ⟨⟨⟩, -⟩, -⟩
    refine ⟨attempts, .approved concerns course, exchanges.replies, ?_⟩
    rw [exchanges.leads.sent, Work.session, List.nil_append, List.map_map]
  · obtain ⟨failure, rfl, rfl⟩ := Outcome.mapError_eq_error_iff.mp stopped.symm
    obtain ⟨attempts, exchanges, course⟩ := Remote.ends_forM_send hasToken untold
    refine ⟨attempts, .untold concerns course, exchanges.replies, ?_⟩
    rw [exchanges.leads.sent, Work.session, List.nil_append, List.map_map]

/-- There is no other way for the work to end. -/
theorem ends_approveAssignment {educator : Educator} {id : Int} {world after : World}
    {result : Except Stop Web.Response} (hasToken : educator.token ≠ [])
    (ends : Ends (approveAssignment educator id) world result after) :
    ∃ attempts, Approval world.store educator id attempts result after.store ∧
      (Work.session world).repliesTo ((exchangedIn attempts).map Prod.fst) =
        (exchangedIn attempts).map Prod.snd ∧
      after.log = world.log ++ (exchangedIn attempts).map (Call.request ∘ Prod.fst) := by
  -- where the look-ups stop, nothing was sent
  suffices stops : (∀ row classroom, ¬Concerns world.store id row classroom) →
      (∃ reason, result = .error reason) → after = world →
      ∃ attempts, Approval world.store educator id attempts result after.store ∧
        (Work.session world).repliesTo ((exchangedIn attempts).map Prod.fst) =
          (exchangedIn attempts).map Prod.snd ∧
        after.log = world.log ++ (exchangedIn attempts).map (Call.request ∘ Prod.fst) by
    rw [approveAssignment] at ends
    rcases Work.ends_find ends with ⟨row, found, ends⟩ | ⟨unfound, stopped, unchanged⟩
    · rcases Work.ends_find ends with ⟨classroom, placed, ends⟩ | ⟨unplaced, stopped, unchanged⟩
      · by_cases empty : classroom.readers = []
        · rw [if_pos (by simpa using empty)] at ends
          obtain ⟨stopped, unchanged⟩ :=
            ends.unique (Work.ends_refuse_iff.mpr ⟨rfl, rfl⟩).bind_error
          refine stops (fun other elsewhere concerns => ?_) ⟨_, stopped⟩ unchanged
          obtain rfl := Option.some.inj (Except.ok.inj (found.symm.trans concerns.found))
          obtain rfl := Option.some.inj (Except.ok.inj (placed.symm.trans concerns.placed))
          exact concerns.peopled empty
        · rw [if_neg (by simpa using empty)] at ends
          exact approval_of_ends hasToken ⟨found, placed, empty⟩ ends
      · refine stops (fun other classroom concerns => ?_) stopped unchanged
        obtain rfl := Option.some.inj (Except.ok.inj (found.symm.trans concerns.found))
        exact unplaced classroom concerns.placed
    · exact stops (fun row _ concerns => unfound row concerns.found) stopped unchanged
  rintro homeless ⟨reason, rfl⟩ rfl
  exact ⟨[], .unplaced homeless, rfl, (List.append_nil _).symm⟩

end Coursework.Api
