import Coursework.Text.Basic

/-! # Faults of header fields

* **`Mail.Fault`** lists what makes a header field unfit for sending, **`Mail.Fault.message`**
  words it. -/

namespace Coursework.Mail

/-- Why a header field cannot be sent. -/
inductive Fault
  /-- The value has more than one line. -/
  | severalLines
  /-- A name or a part of an address holds a line end. -/
  | brokenAddress
  /-- The value ends where another sign has to stand. -/
  | textEnds
  /-- A construct without parts stands where a part is needed. -/
  | noParts
  /-- A display name begins or ends with a lone full stop. -/
  | looseStop
  /-- A display name begins with blanks before a full stop. -/
  | blankBeforeStop
  /-- A bracketed domain is not closed. -/
  | openDomain
  /-- A bracketed domain holds blanks only. -/
  | blankDomain
  /-- Something stands behind the end of a group. -/
  | overrunGroup
  deriving DecidableEq, Repr

/-- The wording of a fault. -/
def Fault.message : Fault → Text
  | severalLines => "Header values may not contain linefeed or carriage return characters"
  | brokenAddress => "invalid arguments; address parts cannot contain CR or LF"
  | textEnds => "string index out of range"
  | noParts => "list index out of range"
  | looseStop => "'str' object has no attribute 'token_type'"
  | blankBeforeStop => "'ValueTerminal' object does not support item assignment"
  | openDomain => "'InvalidHeaderDefect' object has no attribute 'all_defects'"
  | blankDomain =>
    "cannot access local variable 'pos' where it is not associated with a value"
  | overrunGroup => "'Group' object has no attribute 'local_part'"

end Coursework.Mail
