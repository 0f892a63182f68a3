import Coursework.Json.Literal
import Coursework.Json.Reader

/-! # Rejected replies

A reply that does not describe an assignment is rejected for one cause, together with the text
that was looked at.

* **`Rejection`** is a cause and that text; **`Rejection.message`** is the wording.
* **`Rejection.report`** is the form in which a rejection is passed on.
* **`Report.ofArguments`** makes such a report of loose parts. -/

namespace Coursework

/-! ## (1) Reports -/

/-- The kinds of rejection. -/
inductive Rejection.Kind
  /-- No kind in particular. -/
  | general
  /-- Nothing is left of the reply. -/
  | malformedEnvelope
  /-- The reply is no JSON object. -/
  | malformedJson
  /-- Required fields are missing. -/
  | missingField
  /-- A field has a value that is of no use. -/
  | invalidField
  /-- There are fewer tasks than announced. -/
  | taskCountDeficit
  deriving DecidableEq, Repr

namespace Rejection

/-- The name of a kind of rejection. -/
def Kind.name : Kind → Text
  | general => "AssignmentValidationError"
  | malformedEnvelope => "MalformedEnvelope"
  | malformedJson => "MalformedJSON"
  | missingField => "MissingField"
  | invalidField => "InvalidField"
  | taskCountDeficit => "TaskCountDeficit"

/-- The kinds of rejection in order. -/
def Kind.all : List Kind :=
  [general, malformedEnvelope, malformedJson, missingField, invalidField, taskCountDeficit]

/-- What is said of missing fields. -/
def missingMessage (names : List Text) : Text :=
  ("Missing required fields: " : Text) ++ Text.joinWith ", " names

/-- What is said of a field of no use. -/
def invalidMessage (name reason : Text) : Text :=
  ("Invalid value for '" : Text) ++ name ++ "': " ++ reason

/-- What is said of too few tasks. -/
def deficitMessage (expected actual : Text) : Text :=
  ("Expected " : Text) ++ expected ++ " tasks, but found " ++ actual ++ " in tasks array"

end Rejection

/-- The report of a rejection: kind and message, the text that was looked at, and what else there
is to say of that kind. -/
structure Report where
  /-- The kind of rejection. -/
  kind : Rejection.Kind
  /-- What is said. -/
  message : Text
  /-- What was looked at. -/
  source : Json
  /-- Further fields. -/
  more : List (Text × Json) := []

/-- A report as an object. -/
def Report.toJson (report : Report) : Json :=
  .object (("kind", .text report.kind.name) :: ("message", .text report.message) ::
    ("raw_text", report.source) :: report.more)

/-! ## (2) Rejections -/

/-- Why a reply is rejected. -/
inductive Rejection.Cause
  /-- Nothing is left of the reply. -/
  | empty
  /-- The text is malformed in the given way. -/
  | malformed (source : Text) (cause : Json.Cause) (remaining : Nat)
  /-- The text is JSON of another kind than an object. -/
  | notObject (kind : Text)
  /-- These required fields are missing. -/
  | missing (names : List Text)
  /-- The field of this name is of no use, for the reason given. -/
  | invalid (name reason : Text)
  /-- Fewer tasks than announced. -/
  | deficit (expected actual : Nat)
  deriving DecidableEq, Repr

/-- A rejected reply. -/
structure Rejection where
  /-- Why it is rejected. -/
  cause : Rejection.Cause
  /-- What was looked at. -/
  source : Json

namespace Rejection

/-- The kind of a cause. -/
def Cause.kind : Cause → Kind
  | empty => .malformedEnvelope
  | malformed _ _ _ => .malformedJson
  | notObject _ => .malformedJson
  | missing _ => .missingField
  | invalid _ _ => .invalidField
  | deficit _ _ => .taskCountDeficit

/-- The wording of a cause. -/
def Cause.message : Cause → Text
  | empty => "Generated assignment content is empty"
  | malformed source cause remaining =>
    ("Expected JSON format but received malformed content: " : Text) ++
      (Json.Fault.malformed cause remaining).message source
  | notObject kind => ("Expected a JSON object, got " : Text) ++ kind
  | missing names => missingMessage names
  | invalid name reason => invalidMessage name reason
  | deficit expected actual => deficitMessage (Text.ofNat expected) (Text.ofNat actual)

/-- What is said of a rejection. -/
def message (rejection : Rejection) : Text := rejection.cause.message

/-- The report of a rejection. -/
def report (rejection : Rejection) : Report where
  kind := rejection.cause.kind
  message := rejection.message
  source := rejection.source
  more := match rejection.cause with
    | .missing names => [("fields", .list (names.map Json.text))]
    | .deficit expected actual => [("expected", .int expected), ("actual", .int actual)]
    | _ => []

end Rejection

/-! ## (3) Reports of loose parts -/

namespace Report

/-- Why parts make no report. -/
inductive Misfit
  /-- Parts of these names are not given. -/
  | lacking (kind : Rejection.Kind) (names : List Text)
  /-- There are more parts than a kind has room for. -/
  | surplus (kind : Rejection.Kind) (room given : Nat)
  /-- The names are given by a value that holds none. -/
  | notNames (kind : Text)
  /-- The name at this position is no text. -/
  | notName (position : Nat) (kind : Text)

/-- The names of the parts that a kind needs; what was looked at may follow them. -/
def parts : Rejection.Kind → List Text
  | .missingField => ["names"]
  | .invalidField => ["name", "reason"]
  | .taskCountDeficit => ["expected", "actual"]
  | .general | .malformedEnvelope | .malformedJson => ["message"]

/-- The name under which the kind makes its reports. -/
def maker (kind : Rejection.Kind) : Text :=
  (match kind with
    | .malformedEnvelope | .malformedJson => Rejection.Kind.general
    | kind => kind).name ++ (".__init__()" : Text)

/-- The wording of a misfit. -/
def Misfit.message : Misfit → Text
  | lacking kind names =>
    maker kind ++ " missing " ++ Text.ofNat names.length ++ " required positional argument" ++
      (if names.length = 1 then ("" : Text) else "s") ++ ": " ++
      Text.joinWith " and " (names.map fun name => Sign.singleQuote :: name ++ [Sign.singleQuote])
  | surplus kind room given =>
    maker kind ++ " takes from " ++ Text.ofNat room ++ " to " ++ Text.ofNat (room + 1) ++
      " positional arguments but " ++ Text.ofNat given ++ " were given"
  | notNames kind => Sign.singleQuote :: kind ++ ("' object is not iterable" : Text)
  | notName position kind =>
    ("sequence item " : Text) ++ Text.ofNat position ++ ": expected str instance, " ++ kind ++
      " found"

/-- The names that a value holds: the items of a list, the signs of a text, the field names of an
object. -/
def namesOf : Json → Except Misfit (List Json)
  | .list items => .ok items
  | .text value => .ok (value.map fun sign => .text [sign])
  | .object fields => .ok (fields.map fun field => .text field.1)
  | value => .error (.notNames value.kindName)

/-- Names that are all texts. -/
def texts : Nat → List Json → Except Misfit (List Text)
  | _, [] => .ok []
  | position, .text name :: names => (texts (position + 1) names).map (name :: ·)
  | position, value :: _ => .error (.notName position value.kindName)

/-- The report that a kind makes of its parts. -/
def ofArguments (kind : Rejection.Kind) (arguments : List Json) : Except Misfit Report := do
  let room := (parts kind).length
  if arguments.length < room then
    throw (.lacking kind ((parts kind).drop arguments.length))
  if room + 1 < arguments.length then
    throw (.surplus kind (room + 1) (arguments.length + 1))
  let source := arguments.getD room .null
  let first := arguments.headD .null
  let second := arguments.getD 1 .null
  match kind with
  | .missingField =>
    let names ← texts 0 (← namesOf first)
    return ⟨kind, Rejection.missingMessage names, source, [("fields", .list (names.map .text))]⟩
  | .invalidField =>
    return ⟨kind, Rejection.invalidMessage first.display second.display, source, []⟩
  | .taskCountDeficit =>
    return ⟨kind, Rejection.deficitMessage first.display second.display, source,
      [("expected", first), ("actual", second)]⟩
  | .general | .malformedEnvelope | .malformedJson =>
    return ⟨kind, first.display, source, []⟩

end Report

end Coursework
