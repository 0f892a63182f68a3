import Coursework.Assignment.Record
import Coursework.Diagnostic
import Coursework.Failure
import Coursework.Text.Digit

/-! # Replies

The model answers with a JSON object, often between code fences. A reply is accepted when the
object describes an assignment: all required fields are there and of use, and there are at least
as many tasks as announced. Tasks beyond that number are left out, with a diagnostic.

* **`Reply.unfence`** takes code fences away, **`Reply.decode`** reads the object.
* **`Reply.leadingInteger`** is the number with which a value begins.
* **`Reply.validate`** is the assignment that a reply describes.
* **`Reply.validateInto`** keeps a list of diagnostics besides. -/

namespace Coursework.Reply

/-! ## (1) Code fences -/

/-- Three backticks. -/
def fence : Text := "```"

/-- The signs of a language tag. -/
def isTag (sign : Nat) : Bool :=
  Sign.isAlphanumeric sign || sign == Sign.underscore || sign == Sign.hyphen

/-- The signs that may follow a language tag on its line. -/
def isInline (sign : Nat) : Bool := sign == Sign.space || sign == Sign.tab

/-- What follows an opening fence and its line, if the text begins with one. -/
def afterOpening? (reply : Text) : Option Text :=
  match reply.after? fence with
  | none => none
  | some rest =>
    match (rest.dropWhile isTag).dropWhile isInline with
    | [] => some []
    | Sign.newline :: body => some body
    | _ => none

/-- What precedes a closing fence; without one the text itself. -/
def beforeClosing (body : Text) : Text := (body.stripEnd.dropEnding? fence).getD body

/-- A reply without the fences around it and without white space at its ends. -/
def unfence (reply : Text) : Text :=
  let trimmed := reply.strip
  match afterOpening? trimmed with
  | some body => (beforeClosing body).strip
  | none => trimmed

/-! ## (2) The object -/

/-- The text of a reply; a value that counts as not given is the empty text. -/
def textOf (reply : Json) : Outcome Text :=
  match reply with
  | .text value => .ok value
  | value => if value.isVoid then .ok [] else .error (.lacking value.kindName "strip")

/-- The object that an unfenced reply spells; an empty one is reported with the reply itself. -/
def decodeUnfenced (unfenced : Text) (reply : Json) : Outcome (List (Text × Json)) :=
  if unfenced.isEmpty then .error (.rejected ⟨.empty, reply⟩)
  else match Json.read unfenced with
    | .error (.malformed cause remaining) =>
      .error (.rejected ⟨.malformed unfenced cause remaining, .text unfenced⟩)
    | .error (.longNumeral digits) => .error (.longNumeral digits)
    | .ok (.object fields) => .ok fields
    | .ok value => .error (.rejected ⟨.notObject value.kindName, .text unfenced⟩)

/-- The object that a reply spells. -/
def decode (reply : Json) : Outcome (List (Text × Json)) := do
  let text ← textOf reply
  decodeUnfenced (unfence text) reply

/-! ## (3) Fields -/

/-- The fields that a reply must have, in order. -/
def requiredFields : List Text :=
  ["title", "deadline", "totalMarksWeightage", "evaluationCriteria", "numberOfTasks", "tasks"]

/-- A value that does not count as given: nothing, null or a blank text. -/
def isMissing : Option Json → Bool
  | none => true
  | some .null => true
  | some (.text value) => value.isBlank
  | some _ => false

/-- The required fields that are missing. -/
def missingFields (fields : List (Text × Json)) : List Text :=
  requiredFields.filter fun name => isMissing (Json.fieldIn? name fields)

/-- The digits of any script that begin a text, by their values. -/
def leadingDigits : Text → List Nat
  | [] => []
  | sign :: text =>
    match Sign.digitValue? sign with
    | some value => value :: leadingDigits text
    | none => []

/-- The number that digits spell. -/
def numberOf (digits : List Nat) : Nat := digits.foldl (fun number digit => number * 10 + digit) 0

/-- The number with which a text begins, after white space and at most one sign. -/
def leadingIntegerOf (text : Text) : Outcome (Option Int) :=
  let (negative, unsigned) := match text.stripStart with
    | Sign.hyphen :: rest => (true, rest)
    | Sign.plus :: rest => (false, rest)
    | rest => (false, rest)
  let digits := leadingDigits unsigned
  if digits.isEmpty then .ok none
  else if Json.numeralLimit < digits.length then .error (.longNumeral digits.length)
  else .ok (some (if negative then -(numberOf digits : Int) else numberOf digits))

/-- The whole number that a value is or with which it begins. -/
def leadingInteger : Json → Outcome (Option Int)
  | .int value => .ok (some value)
  | .float value => .ok value.toInt?
  | .text value => leadingIntegerOf value
  | _ => .ok none

/-- A field that is shown as a text: lists and objects are of no use there. -/
def scalar (fields : List (Text × Json)) (name unfenced : Text) : Outcome Json :=
  match Json.fieldIn? name fields with
  | none => .ok .null
  | some (.list _) => .error (.rejected ⟨.invalid name "expected text, got list", .text unfenced⟩)
  | some (.object _) => .error (.rejected ⟨.invalid name "expected text, got dict", .text unfenced⟩)
  | some value => .ok value

/-! ## (4) Tasks -/

/-- The marks of a task; a value that is neither text nor number is as good as none. -/
def taskMarks : Option Json → Marks
  | some (.text value) => .text value
  | some (.int value) => .int value
  | some (.float value) => .float value
  | _ => .text []

/-- The text of a field that may be left out, or another text if it counts as not given. -/
def textOr (default : Text) (value : Option Json) : Text :=
  match value with
  | none => default
  | some value => if value.isVoid then default else value.display

/-- The task that an object describes. -/
def task (fields : List (Text × Json)) : Task where
  description := textOr [] (Json.fieldIn? "description" fields)
  weightage := taskMarks (Json.fieldIn? "weightage" fields)

/-- The tasks of a list, each of them an object; positions count from one. -/
def tasksFrom (unfenced : Text) : Nat → List Json → Outcome (List Task)
  | _, [] => .ok []
  | position, .object fields :: items =>
    (tasksFrom unfenced (position + 1) items).map (task fields :: ·)
  | position, _ :: _ =>
    .error (.rejected ⟨.invalid "tasks"
      (("task " : Text) ++ Text.ofNat position ++ " is not an object"), .text unfenced⟩)

/-- The tasks of a reply. -/
def tasks (unfenced : Text) : Json → Outcome (List Task)
  | .list items => tasksFrom unfenced 1 items
  | _ => .error (.rejected ⟨.invalid "tasks" "expected a list of task objects", .text unfenced⟩)

/-- The announced number of tasks. -/
def announced (unfenced : Text) (value : Json) : Outcome Nat := do
  match ← leadingInteger value with
  | some (.ofNat count) => return count
  | _ => throw (.rejected ⟨.invalid "numberOfTasks"
      (("not a non-negative integer: " : Text) ++ value.literal), .text unfenced⟩)

/-- The marks of the whole assignment; a truth value is shown as a text. -/
def totalMarks (value : Json) : Marks :=
  match value with
  | .int value => .int value
  | .float value => .float value
  | value => .text value.display

/-! ## (5) The assignment -/

/-- An accepted reply: the assignment and what was noticed. -/
structure Accepted where
  /-- The assignment. -/
  record : Record
  /-- What was noticed. -/
  noticed : List Diagnostic
  deriving DecidableEq

/-- The assignment that the fields of an unfenced reply describe. -/
def assemble (unfenced : Text) (fields : List (Text × Json)) : Outcome Accepted := do
  let missing := missingFields fields
  if !missing.isEmpty then throw (.rejected ⟨.missing missing, .text unfenced⟩)
  let title ← scalar fields "title" unfenced
  let deadline ← scalar fields "deadline" unfenced
  let marks ← scalar fields "totalMarksWeightage" unfenced
  let criteria ← scalar fields "evaluationCriteria" unfenced
  let expected ← announced unfenced ((Json.fieldIn? "numberOfTasks" fields).getD .null)
  let listed ← tasks unfenced ((Json.fieldIn? "tasks" fields).getD .null)
  if listed.length < expected then
    throw (.rejected ⟨.deficit expected listed.length, .text unfenced⟩)
  return {
    record := {
      title := title.display
      deadline := deadline.display
      totalMarks := totalMarks marks
      criteria := criteria.display
      taskCount := expected
      tasks := listed.take expected
      language := textOr "English" (Json.fieldIn? "language" fields)
      instructions := textOr "None" (Json.fieldIn? "additionalInstructions" fields) }
    noticed := if expected < listed.length then [.surplus expected listed.length] else [] }

/-- The assignment that a reply describes. -/
def validate (reply : Json) : Outcome Accepted := do
  let text ← textOf reply
  let unfenced := unfence text
  let fields ← decodeUnfenced unfenced reply
  assemble unfenced fields

/-- The assignment that a reply describes, and a list of diagnostics with those of this reply
after those noticed before; a rejected reply leaves it as it was. -/
def validateInto (noticed : List Diagnostic) (reply : Json) : Outcome Record × List Diagnostic :=
  match validate reply with
  | .ok accepted => (.ok accepted.record, noticed ++ accepted.noticed)
  | .error failure => (.error failure, noticed)

end Coursework.Reply
