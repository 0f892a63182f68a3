import Coursework.Json.Literal

/-! # Faults of the store

* **`Store.Fault`** lists what the store does not take, **`Store.Fault.message`** words it. -/

namespace Coursework.Store

/-- The two kinds of rows. -/
inductive Table
  /-- The classrooms. -/
  | classrooms
  /-- The assignments. -/
  | assignments
  deriving DecidableEq, Repr

/-- The name of a table. -/
def Table.name : Table → Text
  | .classrooms => "classrooms"
  | .assignments => "assignments"

/-- The name of a row of a table. -/
def Table.rowName : Table → Text
  | .classrooms => "Classroom"
  | .assignments => "Assignment"

/-- What the store does not take. -/
inductive Fault
  /-- A column that a table does not have. -/
  | unknownColumn (table : Table) (column : Text)
  /-- A row without a value that it needs. -/
  | noValue (table : Table) (column : Text)
  /-- A number that another row has. -/
  | takenNumber (table : Table)
  /-- A number of more than 64 bits. -/
  | wideNumber
  deriving DecidableEq, Repr

/-- The wording of a fault. -/
def Fault.message : Fault → Text
  | unknownColumn table column =>
    column.quoted ++ (" is an invalid keyword argument for " : Text) ++ table.rowName
  | noValue table column =>
    ("NOT NULL constraint failed: " : Text) ++ table.name ++ "." ++ column
  | takenNumber table => ("UNIQUE constraint failed: " : Text) ++ table.name ++ ".id"
  | wideNumber => "Python int too large to convert to SQLite INTEGER"

end Coursework.Store
