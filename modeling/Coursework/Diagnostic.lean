import Coursework.Json.Basic

/-! # Diagnostics

A diagnostic tells of something that was noticed and did not stop the work.

* **`Diagnostic`** lists what can be noticed; `kind`, `message` and `details` are its wording. -/

namespace Coursework

/-- Something noticed on the way. -/
inductive Diagnostic
  /-- There were more tasks than announced; the last ones were left out. -/
  | surplus (expected actual : Nat)
  /-- A token of a kind that has no form in a document, met at a position. -/
  | unrecognised (kind : Text) (cursor : Int)
  /-- Nothing could be formatted; a text of the given length was inserted as it is. -/
  | emptyOutput (length : Nat)
  deriving DecidableEq, Repr

namespace Diagnostic

/-- The name of the kind of a diagnostic. -/
def kind : Diagnostic → Text
  | surplus _ _ => "TaskCountSurplus"
  | unrecognised _ _ => "UnrecognizedToken"
  | emptyOutput _ => "EmptyOutput"

/-- What a diagnostic says. -/
def message : Diagnostic → Text
  | surplus expected actual =>
    ("Expected " : Text) ++ Text.ofNat expected ++ " tasks, but found " ++ Text.ofNat actual ++
      ". Trimming extra tasks."
  | unrecognised kind _ => ("Unhandled token type: " : Text) ++ kind
  | emptyOutput _ => "No operations produced; inserted raw content"

/-- The details of a diagnostic. -/
def details : Diagnostic → List (Text × Json)
  | surplus expected actual => [("expected", .int expected), ("actual", .int actual)]
  | unrecognised kind cursor => [("token_kind", .text kind), ("cursor", .int cursor)]
  | emptyOutput length => [("source_length", .int length)]

/-- A diagnostic as an object. -/
def toJson (diagnostic : Diagnostic) : Json :=
  .object [("kind", .text diagnostic.kind), ("message", .text diagnostic.message),
    ("details", .object diagnostic.details)]

end Diagnostic

end Coursework
