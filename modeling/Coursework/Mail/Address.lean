import Coursework.Mail.AddressList

/-! # Addresses

What the constructs of a list of addresses mean: a name, a local part and a domain each. Only a
few texts have no meaning; `Mail.Fault` tells them apart.

* **`Mail.Address`** is an address, **`Mail.Entry`** an entry of a list: an address or a group.
* **`Mail.Address.toText`** and **`Mail.Entry.toText`** write them.
* **`Mail.addresses`** reads a whole text. -/

namespace Coursework.Mail

/-! ## (1) Names, local parts and domains -/

/-- The meaning of a display name: white space and comments at its ends are left out. -/
def nameValue (parts : List Piece) : Except Fault Text := do
  let parts ← match parts with
    | [] => return []
    | .node .blank _ :: rest => pure rest
    | .node _ (.node .blank _ :: inner) :: rest => pure (.node .plain inner :: rest)
    | .leaf _ _ :: _ => throw .looseStop
    | other => pure other
  match parts.getLast? with
  | none => throw .noParts
  | some (.leaf _ _) => throw .looseStop
  | some (.node .blank _) => return Piece.valueAll parts.dropLast
  | some (.node _ inner) =>
    match inner.getLast? with
    | none => throw .noParts
    | some (.node .blank _) =>
      return Piece.valueAll (parts.dropLast ++ [.node .plain inner.dropLast])
    | some _ => return Piece.valueAll parts

/-- The parts of a local part without the white space and comments around its full stops, from
the last part that was kept. -/
def withoutBlanks (last : Piece) : List Piece → Except Fault (List Piece)
  | [] => do
    match last with
    | .leaf _ _ => return [last]
    | .node _ parts =>
      match parts.getLast? with
      | none => throw .noParts
      | some behind => return [if behind.isBlank then .node .plain parts.dropLast else last]
  | piece :: pieces => do
    match piece with
    | .node .blank _ => withoutBlanks last pieces
    | .leaf .dot _ =>
      let last ← match last with
        | .leaf _ _ => pure last
        | .node _ parts =>
          match parts.getLast? with
          | none => throw .noParts
          | some behind =>
            pure (if behind.isBlank then Piece.node .plain parts.dropLast else last)
      return last :: (← withoutBlanks piece pieces)
    | .leaf _ _ => return last :: (← withoutBlanks piece pieces)
    | .node _ parts =>
      match last with
      | .leaf .dot _ =>
        match parts with
        | [] => throw .noParts
        | before :: rest =>
          let kept := if before.isBlank then .node .plain rest else piece
          return last :: (← withoutBlanks kept pieces)
      | _ => return last :: (← withoutBlanks piece pieces)

/-- The meaning of a local part. -/
def localValue : Piece → Except Fault Text
  | .node .localPart [content] => do
    let kept ← withoutBlanks dot content.parts
    return Piece.valueAll (kept.drop 1)
  | _ => .ok []

/-- The meaning of a domain, without white space. -/
def domainValue (domain : Piece) : Text := domain.value.filter (! Sign.isBlank ·)

/-! ## (2) Addresses -/

/-- An address: the name, the local part and the domain. -/
structure Address where
  /-- The name, empty if there is none. -/
  name : Text := []
  /-- What stands before the at sign. -/
  user : Text := []
  /-- What stands behind the at sign, empty if there is nothing. -/
  domain : Text := []
  deriving DecidableEq, Repr

/-- The address that a local part and a domain give with a name. -/
def Address.ofSpec (name : Text) : Piece → Except Fault Address
  | .node .addrSpec [before] => do return { name, user := ← localValue before }
  | .node .addrSpec [before, _, domain] => do
    return { name, user := ← localValue before, domain := domainValue domain }
  | _ => .ok { name }

/-- Whether a piece is a local part with or without a domain. -/
def isAddrSpec : Piece → Bool
  | .node .addrSpec _ => true
  | _ => false

/-- The address that an address in angle brackets gives with a name. -/
def Address.ofAngle (name : Text) (angle : Piece) : Except Fault Address :=
  match angle.parts.find? isAddrSpec with
  | some spec => Address.ofSpec name spec
  | none => .ok { name }

/-- The meaning of a mailbox. -/
def Address.ofMailbox : Piece → Except Fault Address
  | .node .mailbox (.node .nameAddr [angle] :: _) => Address.ofAngle [] angle
  | .node .mailbox (.node .nameAddr [.node .displayName name, angle] :: _) => do
    Address.ofAngle (← nameValue name) angle
  | .node .mailbox (spec :: _) => Address.ofSpec [] spec
  | .node .overrunGroup (.node .displayName name :: _) => do
    let _ ← nameValue name
    throw .overrunGroup
  | _ => .ok {}

/-- The address, unless one of its parts holds a line end. -/
def Address.checked (address : Address) : Except Fault Address :=
  if (address.name ++ address.user ++ address.domain).any fun sign =>
      sign == Sign.newline || sign == Sign.carriageReturn then
    throw .brokenAddress
  else return address

/-- The address as it is written: parts with special signs are quoted. -/
def Address.toText (address : Address) : Text :=
  let user := if address.user.any needsQuotes then quote address.user else address.user
  let spec :=
    if !address.domain.isEmpty then user ++ Sign.atSign :: address.domain
    else if user.isEmpty then "<>" else user
  let name := if address.name.any isSpecial then quote address.name else address.name
  if name.isEmpty then spec
  else name ++ (" <" : Text) ++ (if spec = ("<>" : Text) then [] else spec) ++ ">"
where
  /-- The signs that do not stand in a local part without quotes. -/
  needsQuotes (sign : Nat) : Bool := endsAtom sign && sign != Sign.fullStop

/-! ## (3) Entries -/

/-- An entry of a list of addresses: a group with its members, or an address of its own. -/
structure Entry where
  /-- The name of the group, if it is one. -/
  groupName : Option Text := none
  /-- The members. -/
  members : List Address := []

/-- The entry as it is written. -/
def Entry.toText (entry : Entry) : Text :=
  match entry.groupName, entry.members with
  | none, [address] => address.toText
  | name, members =>
    let name : Text := match name with
      | none => "None"
      | some name => if name.any isSpecial then quote name else name
    let members := Text.joinWith ", " (members.map Address.toText)
    name ++ (":" : Text) ++ (if members.isEmpty then [] else Sign.space :: members) ++ ";"

/-- The addresses of mailboxes. -/
def addressesOf : List Piece → Except Fault (List Address)
  | [] => .ok []
  | mailbox :: mailboxes => do
    let first ← (← Address.ofMailbox mailbox).checked
    return first :: (← addressesOf mailboxes)

/-- The meaning of an entry. -/
def Entry.ofPiece : Piece → Except Fault Entry
  | .node .address (.node .group (.node .displayName name :: _ :: members :: _) :: _) => do
    let groupName ← nameValue name
    let mailboxes := match members with
      | .node .groupList (.node .mailboxList mailboxes :: _) => mailboxes.filter isMailbox
      | _ => []
    return { groupName := some groupName, members := ← addressesOf mailboxes }
  | .node .address (mailbox :: _) => return { members := ← addressesOf [mailbox] }
  | _ => .ok {}

/-- Whether a piece is an address. -/
def isAddress : Piece → Bool
  | .node .address _ => true
  | _ => false

/-- The meanings of the entries among pieces. -/
def entriesOf : List Piece → Except Fault (List Entry)
  | [] => .ok []
  | piece :: pieces =>
    if isAddress piece then do
      let first ← Entry.ofPiece piece
      return first :: (← entriesOf pieces)
    else entriesOf pieces

/-- The pieces of a whole text and the entries that they mean. -/
def addresses (text : Text) : Except Fault (List Piece × List Entry) :=
  match addressList.run text with
  | .error (.fault fault) => .error fault
  | .error .mismatch => .ok ([], [])
  | .ok (pieces, _) => do return (pieces, ← entriesOf pieces)

end Coursework.Mail
