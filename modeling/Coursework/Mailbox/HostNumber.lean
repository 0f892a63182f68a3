import Coursework.Json.Literal

/-! # Numbers of hosts

A host can be given by a number: four decimal octets with full stops between them, or eight
groups of hexadecimal digits with colons, where one run of zero groups may be left out.

* **`HostNumber.Fault`** is what can be wrong with one, **`HostNumber.Fault.message`** its wording.
* **`HostNumber.checkOctets`** and **`HostNumber.checkGroups`** are the checks of the two kinds. -/

namespace Coursework.HostNumber

/-! ## (1) Faults -/

/-- What is wrong with the octets. -/
inductive OctetFault
  /-- There are not four. -/
  | count
  /-- One is empty. -/
  | empty
  /-- One has more than three digits. -/
  | long (octet : Text)
  /-- One starts with a zero that is not needed. -/
  | leadingZero (octet : Text)
  /-- One is above 255. -/
  | large (value : Nat)
  deriving DecidableEq, Repr

/-- What is wrong with a numeric address. -/
inductive Fault
  /-- It is empty. -/
  | empty
  /-- Its octets are wrong. -/
  | octets (fault : OctetFault) (source : Text)
  /-- There are too few colons. -/
  | fewColons
  /-- There are too many colons. -/
  | manyColons
  /-- Two runs are left out. -/
  | twoGaps
  /-- A colon stands alone at the start. -/
  | leadingColon
  /-- A colon stands alone at the end. -/
  | trailingColon
  /-- A run is left out, but nothing is missing. -/
  | noRoom
  /-- There are not eight groups, and no run is left out. -/
  | count
  /-- A group is empty. -/
  | emptyGroup
  /-- A group holds another sign than a digit. -/
  | groupSigns (group : Text)
  /-- A group has more than four digits. -/
  | longGroup (group : Text)
  /-- There is a slash. -/
  | slash
  deriving DecidableEq, Repr

/-- The wording of a fault of octets in a text. -/
def OctetFault.message (source : Text) : OctetFault → Text
  | count => ("Expected 4 octets in " : Text) ++ source.quoted
  | empty => ("Empty octet not permitted in " : Text) ++ source.quoted
  | long octet =>
    ("At most 3 characters permitted in " : Text) ++ octet.quoted ++ " in " ++ source.quoted
  | leadingZero octet =>
    ("Leading zeros are not permitted in " : Text) ++ octet.quoted ++ " in " ++ source.quoted
  | large value =>
    ("Octet " : Text) ++ Text.ofNat value ++ " (> 255) not permitted in " ++ source.quoted

/-- The wording of a fault in a text. -/
def Fault.message (source : Text) : Fault → Text
  | empty => "Address cannot be empty"
  | octets fault part => fault.message part ++ (" in " : Text) ++ source.quoted
  | fewColons => ("At least 3 parts expected in " : Text) ++ source.quoted
  | manyColons => ("At most 8 colons permitted in " : Text) ++ source.quoted
  | twoGaps => ("At most one '::' permitted in " : Text) ++ source.quoted
  | leadingColon =>
    ("Leading ':' only permitted as part of '::' in " : Text) ++ source.quoted
  | trailingColon =>
    ("Trailing ':' only permitted as part of '::' in " : Text) ++ source.quoted
  | noRoom => ("Expected at most 7 other parts with '::' in " : Text) ++ source.quoted
  | count => ("Exactly 8 parts expected without '::' in " : Text) ++ source.quoted
  | emptyGroup =>
    ("invalid literal for int() with base 16: '' in " : Text) ++ source.quoted
  | groupSigns group =>
    ("Only hex digits permitted in " : Text) ++ group.quoted ++ " in " ++ source.quoted
  | longGroup group =>
    ("At most 4 characters permitted in " : Text) ++ group.quoted ++ " in " ++ source.quoted
  | slash => ("Unexpected '/' in " : Text) ++ source.quoted

/-! ## (2) Octets -/

/-- Checks one octet of digits. -/
def checkOctet (octet : Text) : Except OctetFault Unit :=
  if octet.isEmpty then throw .empty
  else if 3 < octet.length then throw (.long octet)
  else if octet.head? = some Sign.zero && octet.length != 1 then throw (.leadingZero octet)
  else if 255 < Text.natOfDigits octet then throw (.large (Text.natOfDigits octet))
  else return

/-- Checks octets of digits with full stops between them. -/
def checkOctets (text : Text) : Except OctetFault Unit := do
  let octets := text.splitAt Sign.fullStop
  if octets.length != 4 then throw .count
  octets.forM checkOctet

/-! ## (3) Groups -/

/-- Checks one group. -/
def checkGroup (group : Text) : Except Fault Unit :=
  if !group.all fun sign => (Sign.hexValue? sign).isSome then throw (.groupSigns group)
  else if 4 < group.length then throw (.longGroup group)
  else if group.isEmpty then throw .emptyGroup
  else return

/-- The groups, with two in place of octets at the end. -/
def groupsOf (text : Text) : Except Fault (List Text) :=
  let groups := text.splitAt Sign.colon
  let last := groups.getLastD []
  if groups.length < 3 then throw .fewColons
  else if last.any (· == Sign.fullStop) then
    match checkOctets last with
    | .ok () => return groups.dropLast ++ [("0" : Text), ("0" : Text)]
    | .error fault => throw (.octets fault last)
  else return groups

/-- Checks groups with a run left out at a position. -/
def checkWithGap (groups : List Text) (gap : Nat) : Except Fault Unit := do
  let above := groups.take gap
  let below := groups.drop (gap + 1)
  if above.head? = some [] && above.length != 1 then throw .leadingColon
  if below.getLast? = some [] && below.length != 1 then throw .trailingColon
  let above := if above.head? = some [] then [] else above
  let below := if below.getLast? = some [] then [] else below
  if 8 ≤ above.length + below.length then throw .noRoom
  (above ++ below).forM checkGroup

/-- Checks groups of which none is left out. -/
def checkWithoutGap (groups : List Text) : Except Fault Unit := do
  if groups.length != 8 then throw .count
  if groups.head? = some [] then throw .leadingColon
  if groups.getLast? = some [] then throw .trailingColon
  groups.forM checkGroup

/-- Checks groups of digits with colons between them. -/
def checkGroups (text : Text) : Except Fault Unit := do
  if text.any (· == Sign.slash) then throw .slash
  if text.isEmpty then throw .empty
  let groups ← groupsOf text
  if 9 < groups.length then throw .manyColons
  let inner := (groups.drop 1).dropLast
  match (inner.zipIdx 1).filter fun entry => entry.1.isEmpty with
  | [] => checkWithoutGap groups
  | [(_, gap)] => checkWithGap groups gap
  | _ => throw .twoGaps

end Coursework.HostNumber
