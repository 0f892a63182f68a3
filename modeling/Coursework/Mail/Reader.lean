import Coursework.Mail.Fault

/-! # Readers of header fields

A reader takes a construct from the start of a text and leaves what follows. Where the construct
is not there another one may be tried; where the text is refused nothing is.

* **`Mail.Reader`** is the type, **`Mail.Reader.orElse`** the choice, **`Mail.Reader.many`** the
  repetition: at most as often as there are signs, so that it ends. -/

namespace Coursework.Mail

/-- Why a reader stops. -/
inductive Stop
  /-- The construct is not here; another may be. -/
  | mismatch
  /-- Nothing can be read. -/
  | fault (fault : Fault)

/-- A reader of a construct: it leaves the rest of the text, or stops. -/
abbrev Reader (α : Type) := StateT Text (Except Stop) α

namespace Reader

/-- The construct is not here. -/
def mismatch {α : Type} : Reader α := throw .mismatch

/-- Nothing can be read. -/
def refuse {α : Type} (fault : Fault) : Reader α := throw (.fault fault)

/-- The first reader, or the second from the same place if the construct is not here. -/
def orElse {α : Type} (first second : Reader α) : Reader α :=
  tryCatch first fun stop =>
    match stop with
    | .mismatch => second
    | .fault fault => refuse fault

/-- The next sign, if there is one. -/
def peek : Reader (Option Nat) := return (← get).head?

/-- The next sign, which has to be there. -/
def next : Reader Nat := do
  match ← get with
  | [] => refuse .textEnds
  | sign :: _ => return sign

/-- Whether the next sign, if there is one, is of the given kind. -/
def isNext (kind : Nat → Bool) : Reader Bool := return (← peek).any kind

/-- Passes over the next sign. -/
def skip : Reader Unit := modify List.tail

/-- The results of a step as often as it has one, at most as often as there are signs. -/
def manyFrom {α : Type} (step : Reader (Option α)) : Nat → Reader (List α)
  | 0 => return []
  | count + 1 => do
    match ← step with
    | none => return []
    | some first => return first :: (← manyFrom step count)

/-- The results of a step as often as it has one. -/
def many {α : Type} (step : Reader (Option α)) : Reader (List α) := do
  manyFrom step (← get).length

/-- The result of a step as a list if the next sign is of the given kind, else none. -/
def when {α : Type} (kind : Nat → Bool) (step : Reader α) : Reader (List α) := do
  if ← isNext kind then return [← step] else return []

end Reader

end Coursework.Mail
