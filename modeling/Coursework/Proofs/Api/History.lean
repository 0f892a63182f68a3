import Coursework.Proofs.Api.Step

/-! # Stores that requests lead to

What holds of the empty store and outlasts every request holds of every store that requests can
lead to.

* **`Reachable`** is a store that requests lead to; **`Reachable.induction`** is the principle. -/

namespace Coursework.Api

open Remote (Educator)

/-- A store to which requests lead from the empty one, whatever those outside answer. -/
inductive Reachable : Store → Prop
  /-- The empty store. -/
  | empty : Reachable {}
  /-- A request leads from one to the next. -/
  | answer (request : Web.Request) (world : World) (reachable : Reachable world.store) :
    Reachable (answer request world).2.store

/-- What holds of the empty store and outlasts every step holds of every reachable store. -/
theorem Reachable.induction {holds : Store → Prop} (empty : holds {})
    (lasts : ∀ request world after reported, holds world.store →
      Step request world after reported → holds after.store)
    {store : Store} (reachable : Reachable store) : holds store := by
  induction reachable with
  | empty => exact empty
  | answer request world _ ih => exact lasts request world _ _ ih (step_answer request world)

/-- An educator who gives a classroom gets it. -/
theorem store_of_gives {request : Web.Request} {world : World} {educator : Educator}
    {form : ClassroomForm} (posts : request.method = Text.ofString "POST")
    (path : request.sentPath.percentDecoded = Text.ofString "/api/classrooms")
    (admits : Admits world request educator) (gives : Gives request ClassroomForm.ofFields form) :
    (answer request world).2.store = world.store.addClassroom
      { id := world.store.nextClassroom, name := form.name, students := some form.students } := by
  have way : Way.ofRequest request = .service .createClassroom [] := by
    rw [Way.ofRequest, posts, path]
    decide
  obtain ⟨result, ends, -⟩ := ends_of_way way world
  exact (ends_createClassroom (ends_of_gives admits gives ends)).2

end Coursework.Api
