import Coursework.Json.Literal
import Coursework.Json.Reader

/-! # The grounds of an answer that forbids

An answer that forbids something may describe its grounds, and they are looked into before the
answer is taken for a refusal. A description of another form than the usual ones cannot be looked
into.

* **`Remote.Grounds.check`** looks into a description.
* **`Remote.Grounds.Fault`** is why it cannot, **`Remote.Grounds.Fault.message`** its wording. -/

namespace Coursework.Remote.Grounds

/-- Why a description cannot be looked into. -/
inductive Fault
  /-- A list in it is empty. -/
  | emptyList
  /-- It is an empty text. -/
  | emptyText
  /-- A value of some kind has no parts. -/
  | noParts (kind : Text)
  /-- A value of some kind cannot be searched. -/
  | notSearchable (kind : Text)
  /-- A list has no part of a name. -/
  | listByName
  /-- A text has no part of a name. -/
  | textByName
  deriving DecidableEq, Repr

/-- The wording of a fault. -/
def Fault.message : Fault → Text
  | emptyList => "list index out of range"
  | emptyText => "string index out of range"
  | noParts kind => Sign.singleQuote :: kind ++ ("' object is not subscriptable" : Text)
  | notSearchable kind => ("argument of type '" : Text) ++ kind ++ "' is not iterable"
  | listByName => "list indices must be integers or slices, not str"
  | textByName => "string indices must be integers, not 'str'"

/-- The part of a name; that it is missing from an object is no fault. -/
def part (name : Text) : Json → Except Fault (Option Json)
  | .object fields => .ok (Json.fieldIn? name fields)
  | .list _ => .error .listByName
  | .text _ => .error .textByName
  | other => .error (.noParts other.kindName)

/-- Whether a name is found in a value: among its fields, its items or its signs. -/
def has (name : Text) : Json → Except Fault Bool
  | .object fields => .ok (Json.fieldIn? name fields).isSome
  | .list items => .ok (items.any fun item => item.toText? = some name)
  | .text value => .ok (Text.contains value name)
  | other => .error (.notSearchable other.kindName)

/-- The names under which details are given, the first that is found counts. -/
def detailNames : List Text := ["errors", "status", "message"]

/-- The first of the names that is found. -/
def firstOf (value : Json) : List Text → Except Fault (Option Text)
  | [] => .ok none
  | name :: names => do if ← has name value then return some name else firstOf value names

/-- Looks into the details of an error. -/
def checkError (error : Json) : Except Fault Unit := do
  match ← firstOf error detailNames with
  | none => return
  | some name =>
    match ← part name error with
    | some (.list (first :: _)) =>
      if ← has "reason" first then discard (part "reason" first)
    | _ => return

/-- Looks into the parts of the given names, one within the other. -/
def checkParts : List Text → Json → Except Fault Unit
  | [], _ => .ok ()
  | name :: names, value => do
    match ← part name value with
    | some inner => checkParts names inner
    | none => return

/-- Looks into a description, if the text of an answer is one. -/
def check (body : Text) : Except Fault Unit :=
  match Json.read body with
  | .error _ => .ok ()
  | .ok (.object fields) =>
    match Json.fieldIn? "error" fields with
    | some error => checkError error
    | none => .ok ()
  | .ok (.list []) => .error .emptyList
  | .ok (.list (first :: _)) => checkParts ["error", "errors", "reason"] first
  | .ok (.text []) => .error .emptyText
  | .ok (.text _) => .error .textByName
  | .ok other => .error (.noParts other.kindName)

end Coursework.Remote.Grounds
