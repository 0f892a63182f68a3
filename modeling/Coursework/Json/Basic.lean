import Coursework.Text.Blank
import Coursework.Decimal.Shortest

/-! # JSON values

The values of JSON, with whole numbers of any size apart from numbers of double precision, and
with objects whose fields keep their order.

* **`Json`** is the type; **`Json.get?`** looks a field up, **`Json.insertField`** adds one.
* **`Json.isVoid`** holds of the values that count as not given: null, false, zeros, and the
  empty text, list and object. -/

namespace Coursework

/-- A JSON value. -/
inductive Json
  /-- The null value. -/
  | null
  /-- A truth value. -/
  | bool (value : Bool)
  /-- A number written without fraction and exponent. -/
  | int (value : Int)
  /-- Any other number. -/
  | float (value : Binary64)
  /-- A text. -/
  | text (value : Text)
  /-- A list of values. -/
  | list (items : List Json)
  /-- An object: named fields in order, each name once. -/
  | object (fields : List (Text × Json))
  deriving Repr, Inhabited

namespace Json

/-! ## (1) Fields -/

/-- The value of the field of a name. -/
def fieldIn? (name : Text) : List (Text × Json) → Option Json
  | [] => none
  | (key, value) :: fields => if key = name then some value else fieldIn? name fields

/-- The value of a field of an object. -/
def get? (value : Json) (name : Text) : Option Json :=
  match value with
  | object fields => fieldIn? name fields
  | null | bool _ | int _ | float _ | text _ | list _ => none

/-- The fields with one more; a name that is there keeps its place and takes the new value. -/
def insertField (fields : List (Text × Json)) (name : Text) (value : Json) :
    List (Text × Json) :=
  match fields with
  | [] => [(name, value)]
  | (key, old) :: rest =>
    if key = name then (key, value) :: rest else (key, old) :: insertField rest name value

/-- A field that was just set is found. -/
theorem fieldIn?_insertField_self (fields : List (Text × Json)) (name : Text) (value : Json) :
    fieldIn? name (insertField fields name value) = some value := by
  induction fields with
  | nil => simp [insertField, fieldIn?]
  | cons field rest ih =>
    obtain ⟨key, old⟩ := field
    by_cases same : key = name <;> simp [insertField, fieldIn?, same, ih]

/-- Setting a field leaves the others alone. -/
theorem fieldIn?_insertField_of_ne (fields : List (Text × Json)) {name other : Text}
    (value : Json) (different : other ≠ name) :
    fieldIn? other (insertField fields name value) = fieldIn? other fields := by
  induction fields with
  | nil => simp [insertField, fieldIn?, different.symm]
  | cons field rest ih =>
    obtain ⟨key, old⟩ := field
    by_cases same : key = name
    · subst same
      simp [insertField, fieldIn?, different.symm]
    · simp [insertField, fieldIn?, same, ih]

/-! ## (2) Kinds of values -/

/-- Whether the value counts as not given. -/
def isVoid : Json → Bool
  | null => true
  | bool value => !value
  | int value => value == 0
  | float value => value.isZero
  | text value => value.isEmpty
  | list items => items.isEmpty
  | object fields => fields.isEmpty

/-- The name of a value's kind in messages. -/
def kindName : Json → Text
  | null => "NoneType"
  | bool _ => "bool"
  | int _ => "int"
  | float _ => "float"
  | text _ => "str"
  | list _ => "list"
  | object _ => "dict"

/-- The text of a text, `none` for any other kind. -/
def toText? : Json → Option Text
  | text value => some value
  | null | bool _ | int _ | float _ | list _ | object _ => none

/-- The items of a list, `none` for any other kind. -/
def toList? : Json → Option (List Json)
  | list items => some items
  | null | bool _ | int _ | float _ | text _ | object _ => none

/-- The fields of an object, `none` for any other kind. -/
def toFields? : Json → Option (List (Text × Json))
  | object fields => some fields
  | null | bool _ | int _ | float _ | text _ | list _ => none

/-! ## (3) Texts as values -/

/-- A text that may be missing. -/
def textOrNull : Option Text → Json
  | some value => text value
  | none => null

/-- A list of texts. -/
def texts (values : List Text) : Json := list (values.map text)

end Json

end Coursework
