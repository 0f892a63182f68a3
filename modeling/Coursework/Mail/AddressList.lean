import Coursework.Mail.Mailbox

/-! # Lists of addresses

Addresses stand between commas; each is a mailbox or a group of them. What fits no construct is
kept as an invalid mailbox up to the next comma, so every text is read to its end.

* **`Mail.entries`** reads what stands between commas, **`Mail.group`** a group.
* **`Mail.addressList`** reads a list of addresses. -/

namespace Coursework.Mail

open Reader

/-- An entry of a list, or what stands where one should: an invalid mailbox, white space and
comments, or nothing. -/
def entryOrElse (entry : Reader Piece) (ends : Nat → Bool) : Reader (List Piece) :=
  Reader.orElse (do return [← entry]) do
    match ← blanks? with
    | [] =>
      if ← isNext (· == Sign.comma) then return []
      else return [← invalidMailbox ends]
    | before =>
      if ← isNext fun sign => !ends sign then return [(← invalidMailbox ends).prepend before]
      else return before

/-- An entry together with what stands between it and the next comma. -/
def overrun (parts : List Piece) : List Piece → List Piece
  | [.node .group inner] => [.node .overrunGroup (inner ++ parts)]
  | entries => entries.map (·.append parts)

/-- Entries between commas, up to one of the given signs or the end. A comma ends an entry, and
what else follows one belongs to it. -/
def entries (entry : Reader Piece) (ends stops : Nat → Bool) : Reader (List Piece) := do
  let parts ← many do
    match ← peek with
    | none => return none
    | some sign =>
      if stops sign then return none
      else
        let here ← entryOrElse entry ends
        let here ←
          if ← isNext fun sign => !ends sign then
            pure (overrun (← invalidMailbox ends).parts here)
          else pure here
        let comma ← when (· == Sign.comma) (do skip; return Piece.sign Sign.comma)
        return some (here ++ comma)
  return parts.flatten

/-- Whether a piece is a mailbox, valid or not. -/
def isMailbox : Piece → Bool
  | .node .mailbox _ => true
  | .node .invalidMailbox _ => true
  | _ => false

/-- The members of a group. -/
def groupList : Reader Piece := do
  if (← get).isEmpty then return .node .groupList []
  let before ← blanks?
  if !before.isEmpty && !(← isNext (· != Sign.semicolon)) then return .node .groupList before
  let ends := fun sign => sign == Sign.comma || sign == Sign.semicolon
  let members ← entries mailbox ends (· == Sign.semicolon)
  if members.any isMailbox then return .node .groupList [.node .mailboxList (before ++ members)]
  else return .node .groupList (before ++ members)

/-- A name, a colon, members and a semicolon. -/
def group : Reader Piece := do
  let name ← phrase
  if !(← isNext (· == Sign.colon)) then mismatch
  skip
  let start := [Piece.node .displayName name, .sign Sign.colon]
  if ← isNext (· == Sign.semicolon) then
    skip
    return .node .group (start ++ [.sign Sign.semicolon])
  else
    let members ← groupList
    skip
    return .node .group (start ++ members :: .sign Sign.semicolon :: (← blanks?))

/-- An entry of a list of addresses as an address; white space and commas stay. -/
def asAddress (entry : Piece) : Piece :=
  match entry with
  | .node .mailbox _ => .node .address [entry]
  | .node .invalidMailbox _ => .node .address [entry]
  | .node .group _ => .node .address [entry]
  | .node .overrunGroup _ => .node .address [entry]
  | other => other

/-- A list of addresses. -/
def addressList : Reader (List Piece) := do
  let parts ← entries (group.orElse mailbox) (· == Sign.comma) fun _ => false
  return parts.map asAddress

end Coursework.Mail
