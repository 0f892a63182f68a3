import Coursework.Text.Base64
import Coursework.Text.Encoding

/-! # Bodies of messages

The body of a message is its text in UTF-8, in lines that end with a line feed. Lines of at most
78 bytes go as they are; else the body is carried by quoted-printable or base 64, whichever is
shorter for its first ten lines.

* **`Mail.Body.ofText`** chooses the transfer encoding and writes the body. -/

namespace Coursework.Mail

/-- How the bytes of a body are carried. -/
inductive TransferEncoding
  /-- As they are, all ASCII. -/
  | sevenBit
  /-- As they are. -/
  | eightBit
  /-- A byte is itself or `=XX`. -/
  | quotedPrintable
  /-- In base 64. -/
  | base64
  deriving DecidableEq, Repr

/-- The name of a transfer encoding. -/
def TransferEncoding.name : TransferEncoding → Text
  | sevenBit => "7bit"
  | eightBit => "8bit"
  | quotedPrintable => "quoted-printable"
  | base64 => "base64"

/-- A body that is ready to be carried. -/
structure Body where
  /-- How its bytes are carried. -/
  encoding : TransferEncoding
  /-- The bytes that are sent. -/
  bytes : List Nat

namespace Body

/-- The lines of a text; a line end at the end opens no further line. -/
def lines (bytes : List Nat) : List (List Nat) :=
  match (Text.lines (Text.unixLines bytes)).reverse with
  | [] :: lines => lines.reverse
  | lines => lines.reverse

/-- Lines with their ends; no line at all is an empty one. -/
def join (lines : List (List Nat)) : List Nat :=
  Text.joinWith [Sign.newline] lines ++ [Sign.newline]

/-! ## (1) Quoted-printable -/

/-- The length of a written line. -/
def lineLength : Nat := 78

/-- The number of lines that the choice of an encoding looks at. -/
def sampleLines : Nat := 10

/-- A byte as `=XX`. -/
def quoteByte (byte : Nat) : Text :=
  [Sign.equals, Sign.capitalHexDigit (byte / 16), Sign.capitalHexDigit (byte % 16)]

/-- Whether a byte stands for itself. -/
def isPlain (byte : Nat) : Bool :=
  byte = Sign.tab || (32 ≤ byte && byte ≤ 126 && byte != Sign.equals)

/-- A line of bytes before it is broken. -/
def quoteLine (line : List Nat) : Text :=
  line.flatMap fun byte => if isPlain byte then [byte] else quoteByte byte

/-- The last piece of a line: white space at its end is quoted or protected by a break. -/
def lastPiece (piece : Text) : Text :=
  match piece.getLast? with
  | some last =>
    if last = Sign.space || last = Sign.tab then
      let room := lineLength + 1 - piece.length
      piece.dropLast ++
        if 3 ≤ room then quoteByte last
        else if room = 2 then [last, Sign.equals, Sign.newline]
        else Sign.equals :: Sign.newline :: quoteByte last
    else piece
  | none => []

/-- A written line in pieces of at most the length of a line, each but the last ending with the
`=` of a soft break. An escape is not broken: its own `=` ends the piece and stands again at the
start of the next. -/
def pieces : Nat → Text → List Text
  | 0, line => [lastPiece line]
  | fuel + 1, line =>
    if line.length ≤ lineLength then [lastPiece line]
    else
      let width := lineLength - 1
      if (line.drop (width - 2)).head? = some Sign.equals then
        line.take (width - 1) :: pieces fuel (line.drop (width - 2))
      else if (line.drop (width - 1)).head? = some Sign.equals then
        line.take width :: pieces fuel (line.drop (width - 1))
      else (line.take width ++ [Sign.equals]) :: pieces fuel (line.drop width)

/-- Lines in quoted-printable. -/
def quotedPrintable (lines : List (List Nat)) : Text :=
  let lines := if lines.isEmpty then [[]] else lines
  join (lines.flatMap fun line => let quoted := quoteLine line; pieces quoted.length quoted)

/-! ## (2) Base 64 -/

/-- The number of bytes that a line of base 64 carries. -/
def bytesPerLine : Nat := lineLength / 4 * 3

/-- Bytes in lines of base 64. -/
def base64Lines : Nat → List Nat → Text
  | 0, _ => []
  | _, [] => []
  | fuel + 1, byte :: bytes =>
    Base64.encode Base64.standard ((byte :: bytes).take bytesPerLine) ++
      Sign.newline :: base64Lines fuel ((byte :: bytes).drop bytesPerLine)

/-! ## (3) The choice -/

/-- Whether the sample is longer in quoted-printable than in base 64. -/
def prefersBase64 (sample : List (List Nat)) : Bool :=
  (Base64.encode Base64.standard (join sample)).length + 1 < (quotedPrintable sample).length

/-- The body with the given lines. -/
def ofLines (lines : List (List Nat)) : Body :=
  if lines.all (·.length ≤ lineLength) then
    ⟨if Text.isAscii (join lines) then .sevenBit else .eightBit, join lines⟩
  else if prefersBase64 (lines.take sampleLines) then
    ⟨.base64, base64Lines (join lines).length (join lines)⟩
  else ⟨.quotedPrintable, quotedPrintable lines⟩

/-- The body that carries a text. -/
def ofText (text : Text) : Except Unencodable Body := do
  let bytes ← text.utf8
  return ofLines (lines bytes)

end Body

end Coursework.Mail
