import Coursework.Failure
import Coursework.Store.Basic

/-! # Access to the store

The store takes numbers of 64 bits and texts without surrogates.

* **`Store.findClassroom`** and **`Store.findAssignment`** look up a number that fits.
* **`Store.checkTexts`** refuses texts that cannot be kept. -/

namespace Coursework.Store

/-- Refuses a number of more than 64 bits. -/
def checkNumber (number : Int) : Outcome Unit :=
  if Form.fitsWord number then .ok () else .error (.storage .wideNumber)

/-- Refuses a text with a surrogate. -/
def checkText (text : Text) : Outcome Unit :=
  (text.utf8.map fun _ => ()).mapError Failure.unencodable

/-- Refuses texts of which one has a surrogate. -/
def checkTexts (texts : List Text) : Outcome Unit := texts.forM checkText

/-- The classroom of a number. -/
def findClassroom (store : Store) (id : Int) : Outcome (Option Classroom) :=
  (checkNumber id).map fun () => store.classroom? id

/-- The assignment of a number. -/
def findAssignment (store : Store) (id : Int) : Outcome (Option Assignment) :=
  (checkNumber id).map fun () => store.assignment? id

/-- The assignments of a classroom. -/
def findAssignmentsOf (store : Store) (classroom : Int) : Outcome (List Assignment) :=
  (checkNumber classroom).map fun () => store.assignmentsOf classroom

end Coursework.Store
