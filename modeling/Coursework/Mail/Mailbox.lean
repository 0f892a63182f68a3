import Coursework.Mail.Word

/-! # Mailboxes

A mailbox is a local part and a domain, in angle brackets if a name precedes them. Routes and
loose local parts, which are no longer written, are read as well.

* **`Mail.addrSpec`** reads a local part and a domain, **`Mail.angleAddr`** one in brackets.
* **`Mail.mailbox`** reads a mailbox, **`Mail.invalidMailbox`** what stands in the place of
  one. -/

namespace Coursework.Mail

open Reader

/-! ## (1) Local parts -/

/-- Whether a sign may stand in the loose form of a local part. -/
def continuesPart (sign : Nat) : Bool := sign == Sign.backslash || !endsPhrase sign

/-- A local part in the form that is no longer written, which has to have a part besides white
space and comments. -/
def loosePart : Reader Piece := do
  let parts ← many do
    match ← peek with
    | none => return none
    | some sign =>
      if !continuesPart sign then return none
      else if sign = Sign.fullStop then skip; return some dot
      else if sign = Sign.backslash then skip; return some (.sign Sign.backslash)
      else return some (← wordOrBlanks)
  if parts.isEmpty || (parts.length = 1 && parts.all Piece.isBlank) then refuse .noParts
  return .node .loosePart parts

/-- What stands before the at sign. -/
def localPart : Reader Piece := do
  let _ ← next
  let before ← blanks?
  let _ ← (do if (← get).isEmpty then mismatch : Reader Unit)
  let content ← dotAtom.orElse (word.orElse do
    if ← isNext continuesPart then return .node .plain [] else mismatch)
  let content := content.prepend before
  if ← isNext continuesPart then
    modify (content.written ++ ·)
    return .node .localPart [← loosePart]
  else return .node .localPart [content]

/-! ## (2) Domains -/

/-- A domain in brackets. -/
def bracketedDomain : Reader Piece := do
  skip
  let ending := [Piece.leaf .missing [], .sign Sign.rightBracket]
  let start := Piece.sign Sign.leftBracket
  if (← get).isEmpty then return .node .bracketedDomain ending
  let before ← when isGap gap
  if (← get).isEmpty then refuse .blankDomain
  let content ← leafUntil .quoted fun sign =>
    sign = Sign.leftBracket || sign = Sign.rightBracket
  if (← get).isEmpty then return .node .bracketedDomain (start :: before ++ content :: ending)
  let behind ← when isGap gap
  let parts := start :: before ++ content :: behind
  match ← peek with
  | none => return .node .bracketedDomain (parts ++ ending)
  | some sign =>
    if sign != Sign.rightBracket then mismatch
    skip
    return .node .bracketedDomain (parts ++ .sign Sign.rightBracket :: (← blanks?))

/-- What stands behind the at sign. -/
def domain : Reader Piece := do
  let _ ← next
  let before ← blanks?
  match ← peek with
  | none => mismatch
  | some sign =>
    if sign = Sign.leftBracket then
      return .node .domain [(← bracketedDomain).prepend before]
    else
      let content := (← dotAtom.orElse atom).prepend before
      if ← isNext (· == Sign.atSign) then mismatch
      if ← isNext (· == Sign.fullStop) then
        let first := match content with
          | .node .dotAtom parts => parts
          | other => [other]
        let rest ← many do
          if ← isNext (· == Sign.fullStop) then
            skip
            return some [dot, ← atom]
          else return none
        return .node .domain (first ++ rest.flatten)
      else return .node .domain [content]

/-- A local part and, behind an at sign, a domain. -/
def addrSpec : Reader Piece := do
  let before ← localPart
  if ← isNext (· == Sign.atSign) then
    skip
    return .node .addrSpec [before, .sign Sign.atSign, ← domain]
  else return .node .addrSpec [before]

/-! ## (3) Addresses in brackets -/

/-- The route that an obsolete address names before its local part. -/
def route : Reader Piece := do
  let comma := fun sign => sign == Sign.comma
  let before ← many do
    match ← peek with
    | none => return none
    | some sign =>
      if opensBlank sign then return some (← blanks)
      else if comma sign then skip; return some (.sign Sign.comma)
      else return none
  if !(← isNext (· == Sign.atSign)) then mismatch
  skip
  let first ← domain
  let rest ← many do
    if ← isNext comma then
      skip
      if (← get).isEmpty then return some [.sign Sign.comma]
      let gap ← blanks?
      if (← next) = Sign.atSign then
        skip
        return some (.sign Sign.comma :: gap ++ [.sign Sign.atSign, ← domain])
      else return some (.sign Sign.comma :: gap)
    else return none
  if !(← isNext (· == Sign.colon)) then mismatch
  skip
  return .node .plain
    (before ++ [.sign Sign.atSign, first] ++ rest.flatten ++ [.sign Sign.colon])

/-- An address in angle brackets. -/
def angleAddr : Reader Piece := do
  let _ ← next
  let before ← blanks?
  if !(← isNext (· == Sign.lessThan)) then mismatch
  skip
  if (← next) = Sign.greaterThan then
    skip
    return .node .angleAddr (before ++ [.sign Sign.lessThan, .sign Sign.greaterThan])
  else
    let content ← (do return [← addrSpec]).orElse do
      let way ← route
      return [way, ← addrSpec]
    let _ ← when (· == Sign.greaterThan) skip
    return .node .angleAddr
      (before ++ .sign Sign.lessThan :: content ++ .sign Sign.greaterThan :: (← blanks?))

/-- The parts of a display name with white space and comments before the first of them. -/
def prependToFirst (before : List Piece) : List Piece → Reader (List Piece)
  | .leaf kind text :: parts =>
    if before.isEmpty then return .leaf kind text :: parts else refuse .blankBeforeStop
  | first :: parts => return first.prepend before :: parts
  | [] => return []

/-- An optional name and an address in angle brackets. -/
def nameAddr : Reader Piece := do
  let _ ← next
  let before ← blanks?
  match ← peek with
  | none => mismatch
  | some sign =>
    if sign = Sign.lessThan then
      return .node .nameAddr [(← angleAddr).prepend before]
    else if endsPhrase sign then mismatch
    else
      let name ← phrase
      if (← get).isEmpty then mismatch
      let name ← prependToFirst before name
      return .node .nameAddr [.node .displayName name, ← angleAddr]

/-! ## (4) Mailboxes -/

/-- An address with or without a name. -/
def mailbox : Reader Piece := do
  let content ← nameAddr.orElse addrSpec
  if content.isOpen then refuse .openDomain
  return .node .mailbox [content]

/-- Everything up to one of the given signs. -/
def invalidMailbox (ends : Nat → Bool) : Reader Piece := do
  let parts ← many do
    match ← peek with
    | none => return none
    | some sign =>
      if ends sign then return none
      else if endsPhrase sign then skip; return some (.sign sign)
      else return some (.node .plain (← phrase))
  return .node .invalidMailbox parts

end Coursework.Mail
