import Coursework.Mailbox.Domain

/-! # Mailboxes

A mailbox is where mail is delivered to: a part that its host gives a meaning to, an at-sign and
the host name. It may be given with a name before it and angle brackets around it; only the
mailbox is kept.

* **`Mailbox.read`** reads a mailbox and gives its normal form. -/

namespace Coursework.Mailbox

/-! ## (1) Names and brackets -/

/-- The greatest number of signs that are looked at. -/
def sourceLimit : Nat := 2048

/-- The signs of a word of a name. -/
def isNameSign (sign : Nat) : Bool :=
  Sign.isAtom sign || (Sign.isWide sign && Sign.isPrintable sign && !Sign.isMark sign)

/-- What stands in angle brackets that make up a text. -/
def bracketed? : Text → Option Text
  | Sign.lessThan :: rest =>
    match rest.reverse with
    | Sign.greaterThan :: last :: inner => some (last :: inner).reverse
    | _ => none
  | _ => none

/-- What stands in angle brackets after the last quote of a text, if there is a sign before that
quote. -/
def afterQuotes? : Text → Option Text
  | [] => none
  | sign :: rest =>
    match afterQuotes? rest with
    | some inner => some inner
    | none =>
      if sign = Sign.doubleQuote then bracketed? (Text.stripStart rest) else none

/-- What stands in angle brackets after a name, which may be missing. -/
def unbracketed? (text : Text) : Option Text :=
  let text := text.strip
  match text with
  | [] => none
  | Sign.doubleQuote :: rest => afterQuotes? (rest.drop 1)
  | first :: _ =>
    if isNameSign first then
      bracketed? (text.dropWhile fun sign => isNameSign sign || Sign.isBlank sign)
    else bracketed? text

/-! ## (2) Taking apart -/

/-- Where a reader of quoted text is. -/
inductive Quoting
  /-- Outside of quotes. -/
  | outside
  /-- Between quotes. -/
  | inside
  /-- After a backslash between quotes. -/
  | escaped
  deriving DecidableEq, Repr

/-- The text up to the first of the given signs outside of quotes, and the rest from it on. -/
def splitUnquoted (ends : Nat → Bool) : Quoting → Text → Text × Text
  | _, [] => ([], [])
  | .outside, sign :: rest =>
    if ends sign then ([], sign :: rest)
    else
      let next := if sign = Sign.doubleQuote then Quoting.inside else .outside
      let (before, after) := splitUnquoted ends next rest
      (sign :: before, after)
  | .inside, sign :: rest =>
    let next := if sign = Sign.backslash then Quoting.escaped
      else if sign = Sign.doubleQuote then .outside else .inside
    let (before, after) := splitUnquoted ends next rest
    (sign :: before, after)
  | .escaped, sign :: rest =>
    let (before, after) := splitUnquoted ends .inside rest
    (sign :: before, after)

/-- The two parts of a text at the first of the given signs outside of quotes. -/
def split (ends : Nat → Bool) (text : Text) : Except Fault (Text × Text) :=
  match splitUnquoted ends .outside text with
  | (_, []) =>
    .error (if text.any (· == 0xFF20) then .wideAt
      else if text.any (· == 0xFE6B) then .smallAt else .noAt)
  | parts => .ok parts

/-- The text between quotes, up to the closing one. -/
def readQuoted : Quoting → Text → Except Fault Text
  | _, [] => .ok []
  | .escaped, sign :: rest => (readQuoted .inside rest).map (sign :: ·)
  | quoting, sign :: rest =>
    if sign = Sign.backslash then readQuoted .escaped rest
    else if sign = Sign.doubleQuote then
      if rest.isEmpty then .ok [] else .error (.afterQuotes rest)
    else (readQuoted quoting rest).map (sign :: ·)

/-- A text without the quotes around it, and whether there are any. -/
def unquote : Text → Except Fault (Text × Bool)
  | Sign.doubleQuote :: rest => (readQuoted .inside rest).map fun text => (text, true)
  | text => .ok (text, false)

/-- Refuses a mailbox in angle brackets, after looking at its parts. -/
def refuseNamed (name rest : Text) : Except Fault (Text × Text) := do
  let (name, isQuoted) ← unquote name.stripEnd
  if !isQuoted then
    match name.filter fun sign => !(Sign.isAtom sign || sign == Sign.space) with
    | [] => pure ()
    | signs => throw (.nameSigns signs)
  checkSafe true name
  if !rest.any (· == Sign.greaterThan) then throw .openBracket
  let rest := rest.trimEnd (· == Sign.space)
  if rest.getLast? != some Sign.greaterThan then throw .afterBracket
  let (part, _) ← split (· == Sign.atSign) (Text.trimEnd (· == Sign.greaterThan) (rest.drop 1))
  let _ ← unquote part
  throw .named

/-! ## (3) The part before the at-sign -/

/-- The part before the at-sign in normal form, and whether it is ASCII. -/
structure Local where
  /-- The part. -/
  text : Text
  /-- Whether it is ASCII. -/
  isPlain : Bool
  deriving DecidableEq, Repr

/-- Whether a text consists of atoms of the given signs with full stops between them. -/
def isDotted (atom : Nat → Bool) (text : Text) : Bool :=
  (Text.splitAt Sign.fullStop text).all fun piece => !piece.isEmpty && piece.all atom

/-- The parts whose case has no meaning on any host. -/
def commonNames : List Text :=
  ["info", "marketing", "sales", "support", "abuse", "noc", "security", "postmaster",
    "hostmaster", "usenet", "news", "webmaster", "www", "uucp", "ftp"]

/-- A part with small letters, if its case has no meaning on any host. -/
def lowerCommon (text : Text) : Text :=
  let small := text.map Sign.lower
  if commonNames.contains small then small else text

/-- Reads the part before the at-sign; one that needs its quotes is read, but not allowed. -/
def readLocal (part : Text) (isQuoted : Bool) : Except Fault Local := do
  if part.isEmpty then throw .emptyLocal
  if isDotted Sign.isAtom part then
    if isQuoted then throw .quotedLocal
    return ⟨lowerCommon part, true⟩
  if isDotted (fun sign => Sign.isAtom sign || Sign.isWide sign) part then
    checkSafe false part
    if isQuoted then throw .quotedLocal
    return ⟨part, false⟩
  if isQuoted then
    match part.filter (! Sign.isQuotable ·) with
    | [] => pure ()
    | signs => throw (.quotedSigns signs)
    checkSafe true part
    throw .quotedLocal
  match part.filter (! Sign.isLocal ·) with
  | [] => pure ()
  | signs => throw (.localSigns signs)
  if part.endsWith "." then throw .localEnd
  if part.startsWith "." then throw .localStart
  throw .twoPeriods

/-! ## (4) The part after the at-sign -/

/-- Looks at a host that is given in brackets, and refuses it. -/
def refuseBracketed (content : Text) : Except Fault Host :=
  if !content.isEmpty && content.all fun sign => Sign.isDigit sign || sign == Sign.fullStop then
    match HostNumber.checkOctets content with
    | .ok () => .error .numericHost
    | .error fault => .error (.octets fault content)
  else
    match content.after? "IPv6:" with
    | some groups =>
      match HostNumber.checkGroups groups with
      | .ok () => .error .numericHost
      | .error fault => .error (.groups fault groups)
    | none =>
      if !content.any (· == Sign.colon) then .error .noTag
      else
        match content.filter fun sign => !isBracketSign sign with
        | [] => .error .unknownTag
        | signs => .error (.bracketSigns signs)
where
  /-- The signs between brackets. -/
  isBracketSign (sign : Nat) : Bool :=
    (0x21 ≤ sign && sign ≤ 0x5A) || (0x5E ≤ sign && sign ≤ 0x7E)

/-! ## (5) Mailboxes -/

/-- The greatest number of bytes of a mailbox. -/
def mailboxLimit : Nat := 254

/-- How far a mailbox as it was given is too long. -/
def excessOf (given : Text) : Excess :=
  let bytes := given.byteCount - mailboxLimit
  if given.isAscii then .signs bytes
  else
    let widest := given.foldl (fun width sign => max width (Text.utf8Bytes sign).length) 1
    let least := max 1 (bytes / widest)
    if least = bytes then .signs bytes else .between least bytes

/-- Refuses a mailbox that is too long in one of its forms. -/
def checkLength (given : Text) (before : Text) (host : Host) : Except Fault Unit := do
  let shown := before ++ Sign.atSign :: host.shown
  let written := before ++ Sign.atSign :: host.written
  if mailboxLimit < given.byteCount then throw (.long (excessOf given))
  if mailboxLimit < shown.byteCount then
    throw (.long (.normalised (shown.byteCount - mailboxLimit)))
  if mailboxLimit < written.byteCount then
    throw (.long (.written (written.byteCount - mailboxLimit)))

/-- Reads a mailbox without name and brackets. -/
def readPlain (given : Text) : Except Fault Text := do
  let (before, after) ←
    match ← split (fun sign => sign == Sign.atSign || sign == Sign.lessThan) given with
    | (name, Sign.lessThan :: rest) => refuseNamed name (Sign.lessThan :: rest)
    | parts => pure parts
  let after := after.drop 1
  let (part, isQuoted) ← unquote before
  let part ← readLocal part isQuoted
  if after.isEmpty then throw .emptyHost
  let host ←
    match after with
    | Sign.leftBracket :: content =>
      if Text.endsWith content "]" then refuseBracketed content.dropLast else readHost after
    | _ => readHost after
  checkLength given part.text host
  return part.text ++ Sign.atSign :: host.shown

/-- Reads a mailbox. -/
def read (given : Text) : Except Fault Text :=
  if given.any fun sign => sign == Sign.carriageReturn || sign == Sign.newline then
    .error .severalLines
  else if sourceLimit < given.length then .error (.overlong sourceLimit)
  else readPlain ((unbracketed? given).getD given).strip

end Coursework.Mailbox
