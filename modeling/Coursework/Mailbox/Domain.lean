import Coursework.Mailbox.Fault
import Coursework.Text.Fold
import Coursework.Text.Punycode

/-! # Host names

The part of a mailbox after the at-sign is a host name: labels with full stops between them.
Labels are normalised to small letters; a label beyond ASCII has a written form in ASCII, and a
label that is given in that form is shown without it.

* **`Mailbox.Host`** is a host name, **`Mailbox.readHost`** reads one. -/

namespace Coursework

/-! ## (1) Small letters -/

/-- The small letter of which a sign is the capital: of several, the one that belongs to the
longest row of letters. -/
def Sign.small (sign : Nat) : Nat :=
  let row (best : Nat × Nat) (entry : Nat × Nat × Nat × Int) : Nat × Nat :=
    let (first, last, step, distance) := entry
    let letter := ((sign : Int) - distance).toNat
    if first ≤ letter && letter ≤ last && (letter - first) % step == 0 && letter != sign &&
        best.2 < last - first + 1 then (letter, last - first + 1)
    else best
  if Sign.isWide sign then (Sign.shifts.foldl row (sign, 0)).1 else Sign.lower sign

namespace Mailbox

/-- A host name. -/
structure Host where
  /-- As it is shown. -/
  shown : Text
  /-- Its written form in ASCII. -/
  written : Text
  deriving DecidableEq, Repr

/-- The greatest length of a host name. -/
def hostLimit : Nat := 253

/-- The greatest length of a label. -/
def labelLimit : Nat := 63

/-- The names that stand for no host that mail could be delivered to. -/
def reservedNames : List Text := ["arpa", "invalid", "local", "localhost", "onion", "test"]

/-! ## (2) Normal form -/

/-- The normal form of a sign: a small letter, or a full stop for the other forms of it. -/
def normalSign (sign : Nat) : Nat :=
  if sign = 0x3002 || sign = 0xFF0E || sign = 0xFF61 then Sign.fullStop
  else if 0xFF01 ≤ sign && sign ≤ 0xFF5E then Sign.lower (sign - 0xFEE0)
  else Sign.small sign

/-- Refuses signs that have no place in a host name. -/
def checkHostSigns (fault : Text → Fault) (name : Text) : Except Fault Unit :=
  match name.filter (! Sign.isHost ·) with
  | [] => .ok ()
  | signs => .error (fault signs)

/-- Refuses unsafe signs. -/
def checkSafe (spaceAllowed : Bool) (text : Text) : Except Fault Unit :=
  match text.filter (Sign.isUnsafe spaceAllowed) with
  | [] => .ok ()
  | signs => .error (.unsafeSigns (signs.eraseDups.mergeSort fun a b => decide (a ≤ b)))

/-- Refuses full stops and hyphens at places where they cannot stand. -/
def checkJoints (name : Text) : Except Fault Unit := do
  if name.endsWith "." then throw (.hostEnd .period)
  if name.startsWith "." then throw (.hostStart .period)
  if Text.contains name ".." then throw .twoPeriods
  if name.endsWith "-" then throw (.hostEnd .hyphen)
  if name.startsWith "-" then throw (.hostStart .hyphen)
  if Text.contains name ".-" || Text.contains name "-." then throw .mixedJoints

/-- What a label starts with that is given in its written form. -/
def writtenMark : Text := "xn--"

/-- Whether two hyphens stand as third and fourth sign of a label. -/
def hasDoubleHyphen (label : Text) : Bool := Text.startsWith (label.drop 2) "--"

/-! ## (3) Written forms -/

/-- Whether a sign has a place in a label. -/
def isLabelSign (sign : Nat) : Bool :=
  Sign.isLower sign || Sign.isDigit sign || sign == Sign.hyphen ||
    (Sign.isWide sign && Sign.isPrintable sign && !Sign.isMark sign && normalSign sign == sign)

/-- Refuses a label that no host can have. -/
def checkLabel (label : Text) : Except LabelFault Unit :=
  if hasDoubleHyphen label then .error .hyphens
  else
    match (label.zipIdx 1).find? fun entry => !isLabelSign entry.1 with
    | some (code, position) => .error (.sign code position label)
    | none => .ok ()

/-- A label as it is shown. -/
def shownLabel (label : Text) : Except LabelFault Text :=
  match label.after? writtenMark with
  | some [] => .error .noContent
  | some content =>
    if content.endsWith "-" then .error .hyphenAtEnd
    else
      match Punycode.decode? content with
      | some label => (checkLabel label).map fun () => label
      | none => .error .unreadable
  | none => (checkLabel label).map fun () => label

/-- The written form of a label. -/
def writtenLabel (label : Text) : Except LabelFault Text := do
  let written ←
    if label.isAscii then (shownLabel label).map fun _ => label
    else (checkLabel label).map fun () => writtenMark ++ Punycode.encode label
  if labelLimit < written.length then throw .long
  return written

/-- The written form of a host name in normal form. -/
def writtenHost (name : Text) : Except Fault Text :=
  if name.all Sign.isPlainHost then .ok name
  else if hostLimit + 1 < name.length then .error (.longWrittenHost none)
  else
    match (Text.splitAt Sign.fullStop name).mapM writtenLabel with
    | .error fault => .error (.unwritable fault)
    | .ok labels =>
      let written := Text.joinWith "." labels
      if hostLimit < written.length then .error (.longWrittenHost none) else .ok written

/-! ## (4) Reading -/

/-- Refuses a written form that is too long. -/
def checkLengths (given written : Text) : Except Fault Unit := do
  if hostLimit < written.length then
    let excess := written.length - hostLimit
    throw (if written = given then .longHost excess else .longWrittenHost (some excess))
  match (Text.splitAt Sign.fullStop written).find? fun label => labelLimit < label.length with
  | some label => throw (.longLabel (label.length - labelLimit))
  | none => return

/-- Refuses a written form that names no host in the public network. -/
def checkPublic (written : Text) : Except Fault Unit := do
  if !written.any (· == Sign.fullStop) then throw .singleLabel
  if !(written.getLast?.any Sign.isLetter) then throw .noTopLevel
  if reservedNames.any fun name => written.endsWith (Sign.fullStop :: name) then throw .reserved

/-- Reads a host name. -/
def readHost (given : Text) : Except Fault Host := do
  checkHostSigns .hostSigns given
  checkSafe false given
  let name := given.map normalSign
  checkHostSigns .normalisedHostSigns name
  checkJoints name
  if (Text.splitAt Sign.fullStop name).any fun label =>
      hasDoubleHyphen label && !label.startsWith "xn" then throw .doubleHyphen
  let written ← writtenHost name
  checkLengths given written
  checkPublic written
  match (Text.splitAt Sign.fullStop written).mapM shownLabel with
  | .error fault => throw (.unreadable fault)
  | .ok labels => return { shown := Text.joinWith "." labels, written }

end Mailbox

end Coursework
