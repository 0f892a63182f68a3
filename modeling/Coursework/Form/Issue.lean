import Coursework.Json.Basic
import Coursework.Mailbox.Fault

/-! # Issues of a filled-in form

Data from outside is checked against a form: which fields there are and what each may hold. All
that is wrong is reported together, each issue with its place.

* **`Issue`** is a cause at a place, a path of field names and positions.
* **`Issue.Cause.kind`** and **`Issue.Cause.message`** are the wording of a cause.
* **`Checked`** is a value or the issues found; **`Checked.also`** checks one argument after
  another and keeps the issues of all. -/

namespace Coursework

/-! ## (1) Causes and places -/

/-- A step on the way to a place in a value. -/
inductive Step
  /-- Into the field of a name, or into one reading of a value with several. -/
  | field (name : Text)
  /-- To an item of a list. -/
  | position (index : Nat)
  deriving DecidableEq, Repr

/-- The form of a step in a report. -/
def Step.toJson : Step → Json
  | field name => .text name
  | position index => .int index

/-- What can be wrong with a value. -/
inductive Issue.Cause
  /-- A required field is not there. -/
  | missing
  /-- The value is no text. -/
  | notText
  /-- The text has no encoded form. -/
  | notEncodable
  /-- The text is too short. -/
  | shorterThan (least : Nat)
  /-- The text is too long. -/
  | longerThan (greatest : Nat)
  /-- The value is no whole number. -/
  | notInteger
  /-- The text spells no whole number. -/
  | integerUnreadable
  /-- The whole number is too large to be read. -/
  | integerTooLarge
  /-- The number has a fraction. -/
  | fractional
  /-- The number is infinite or none. -/
  | notFinite
  /-- The value is no number. -/
  | notNumber
  /-- The value is no truth value. -/
  | notBoolean
  /-- The text or number stands for no truth value. -/
  | booleanUnreadable
  /-- The value is no list. -/
  | notList
  /-- The value is no object with named fields. -/
  | notObject
  /-- The value is no object that describes a thing of the given name. -/
  | notDescription (name : Text)
  /-- The value is no object from which fields could be taken. -/
  | noFields
  /-- The number is too small. -/
  | below (least : Int)
  /-- The number is too large. -/
  | above (greatest : Int)
  /-- The tag in the given field is none of those known. -/
  | unknownTag (field tag : Text) (known : List Text)
  /-- There is no tag in the given field. -/
  | noTag (field : Text)
  /-- The text is no mailbox. -/
  | noMailbox (fault : Mailbox.Fault)
  /-- The text is no JSON. -/
  | notJson
  deriving DecidableEq, Repr

/-- Something wrong at a place. -/
structure Issue where
  /-- What is wrong. -/
  cause : Issue.Cause
  /-- The way from the whole value to the place. -/
  place : List Step
  deriving DecidableEq, Repr

namespace Issue

/-- Tags in quotes, with commas between them. -/
def tagList (tags : List Text) : Text :=
  Text.joinWith ", " (tags.map fun tag => Sign.singleQuote :: tag ++ [Sign.singleQuote])

/-- `1 character`, or any other number of characters. -/
def characters (count : Nat) : Text :=
  Text.ofNat count ++ if count = 1 then (" character" : Text) else " characters"

/-- The name of a kind of cause. -/
def Cause.kind : Cause → Text
  | missing => "missing"
  | notText => "string_type"
  | notEncodable => "string_unicode"
  | shorterThan _ => "string_too_short"
  | longerThan _ => "string_too_long"
  | notInteger => "int_type"
  | integerUnreadable => "int_parsing"
  | integerTooLarge => "int_parsing_size"
  | fractional => "int_from_float"
  | notFinite => "finite_number"
  | notNumber => "float_type"
  | notBoolean => "bool_type"
  | booleanUnreadable => "bool_parsing"
  | notList => "list_type"
  | notObject => "dict_type"
  | notDescription _ => "model_type"
  | noFields => "model_attributes_type"
  | below _ => "greater_than_equal"
  | above _ => "less_than_equal"
  | unknownTag _ _ _ => "union_tag_invalid"
  | noTag _ => "union_tag_not_found"
  | noMailbox _ => "value_error"
  | notJson => "json_invalid"

/-- The wording of a cause. -/
def Cause.message : Cause → Text
  | missing => "Field required"
  | notText => "Input should be a valid string"
  | notEncodable =>
    "Input should be a valid string, unable to parse raw data as a unicode string"
  | shorterThan least => ("String should have at least " : Text) ++ characters least
  | longerThan greatest => ("String should have at most " : Text) ++ characters greatest
  | notInteger => "Input should be a valid integer"
  | integerUnreadable =>
    "Input should be a valid integer, unable to parse string as an integer"
  | integerTooLarge =>
    "Unable to parse input string as an integer, exceeded maximum size"
  | fractional => "Input should be a valid integer, got a number with a fractional part"
  | notFinite => "Input should be a finite number"
  | notNumber => "Input should be a valid number"
  | notBoolean => "Input should be a valid boolean"
  | booleanUnreadable => "Input should be a valid boolean, unable to interpret input"
  | notList => "Input should be a valid list"
  | notObject => "Input should be a valid dictionary"
  | notDescription name => ("Input should be a valid dictionary or instance of " : Text) ++ name
  | noFields => "Input should be a valid dictionary or object to extract fields from"
  | below least => ("Input should be greater than or equal to " : Text) ++ Text.ofInt least
  | above greatest => ("Input should be less than or equal to " : Text) ++ Text.ofInt greatest
  | unknownTag field tag known =>
    ("Input tag '" : Text) ++ tag ++ "' found using '" ++ field ++
      "' does not match any of the expected tags: " ++ tagList known
  | noTag field => ("Unable to extract tag using discriminator '" : Text) ++ field ++ "'"
  | noMailbox fault => ("value is not a valid email address: " : Text) ++ fault.message
  | notJson => "JSON decode error"

/-- The issue seen from one step further out. -/
def within (step : Step) (issue : Issue) : Issue := { issue with place := step :: issue.place }

/-- The report of an issue. -/
def toJson (issue : Issue) : Json :=
  .object [("type", .text issue.cause.kind), ("loc", .list (issue.place.map Step.toJson)),
    ("msg", .text issue.cause.message)]

end Issue

/-! ## (2) Checked values -/

/-- A value that passed its checks, or the issues that were found. -/
abbrev Checked (α : Type) := Except (List Issue) α

namespace Checked

/-- A single issue, at the value itself. -/
def fail {α : Type} (cause : Issue.Cause) : Checked α := .error [⟨cause, []⟩]

/-- A checked value seen from one step further out. -/
def within {α : Type} (step : Step) (checked : Checked α) : Checked α :=
  checked.mapError (List.map (Issue.within step))

/-- A function whose arguments are still to be checked. -/
def start {α : Type} (function : α) : Checked α := .ok function

/-- A function with one more argument checked; the issues found before come first. -/
def also {α β : Type} (function : Checked (α → β)) (value : Checked α) : Checked β :=
  match function, value with
  | .ok function, .ok value => .ok (function value)
  | .ok _, .error issues => .error issues
  | .error issues, .ok _ => .error issues
  | .error issues, .error others => .error (issues ++ others)

/-- The items that pass a check, or the issues of all that do not. -/
def eachFrom {α β : Type} (check : α → Checked β) : Nat → List α → Checked (List β)
  | _, [] => .ok []
  | index, item :: items =>
    ((start List.cons).also (within (.position index) (check item))).also
      (eachFrom check (index + 1) items)

/-- The items of a list that pass a check, or the issues of all that do not. -/
def each {α β : Type} (check : α → Checked β) (items : List α) : Checked (List β) :=
  eachFrom check 0 items

/-- The issues of a checked value. -/
def issues {α : Type} : Checked α → List Issue
  | .ok _ => []
  | .error issues => issues

end Checked

end Coursework
