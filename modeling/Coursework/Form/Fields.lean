import Coursework.Form.Issue
import Coursework.Json.Literal

/-! # Checks of named fields

A field has the name that it goes by outside and may have another; the first that is there is
taken, and issues speak of it by that name. Fields that a form does not know are ignored.

* **`Form.required`** and **`Form.withDefault`** check one field.
* **`Form.describing`** checks an object that describes a thing of a given name. -/

namespace Coursework.Form

open Checked

/-- The fields of an object. -/
abbrev Fields := List (Text × Json)

/-- The first of the names that is there, and its value. -/
def lookUp (fields : Fields) (names : List Text) : Option (Text × Json) :=
  names.findSome? fun name => (Json.fieldIn? name fields).map fun value => (name, value)

/-- A field that must be there. -/
def required {α : Type} (names : List Text) (check : Json → Checked α) (fields : Fields) :
    Checked α :=
  match lookUp fields names with
  | some (name, value) => within (.field name) (check value)
  | none => within (.field (names.headD [])) (fail .missing)

/-- A field that has a value of its own when it is not there. -/
def withDefault {α : Type} (default : α) (names : List Text) (check : Json → Checked α)
    (fields : Fields) : Checked α :=
  match lookUp fields names with
  | some (name, value) => within (.field name) (check value)
  | none => .ok default

/-- An object that describes a thing of the given name. -/
def describing {α : Type} (name : Text) (check : Fields → Checked α) : Json → Checked α
  | .object fields => check fields
  | _ => fail (.notDescription name)

/-- An object from which fields are taken. -/
def fieldsOf {α : Type} (check : Fields → Checked α) : Json → Checked α
  | .object fields => check fields
  | _ => fail .noFields

/-- A field that tells which kind of thing an object describes: its tag and its value are given
to the check, whose issues are seen from within the tag. -/
def tagged {α : Type} (field : Text) (kinds : List (Text × (Fields → Checked α))) :
    Json → Checked α
  | .object fields =>
    match Json.fieldIn? field fields with
    | none => fail (.noTag field)
    | some tag =>
      match kinds.find? fun kind => tag.toText? = some kind.1 with
      | some (name, check) => within (.field name) (check fields)
      | none => fail (.unknownTag field tag.display (kinds.map Prod.fst))
  | _ => fail .noFields

end Coursework.Form
