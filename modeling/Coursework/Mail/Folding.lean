import Coursework.Mail.Address
import Coursework.Failure

/-! # Folding of header fields

A header field is written in lines of at most 78 signs where that is possible. Lines are broken
before white space, at the highest construct that fits on a line of its own. Text that is not
ASCII goes into encoded words, and so does a line end and a word that is too long for a line;
neighbouring encoded words are joined.

* **`Mail.Fold`** is the state: the lines that are finished and the one in the making.
* **`Mail.Fold.piece`** writes a tree, **`Mail.foldField`** a field with its name. -/

namespace Coursework.Mail

/-- The length that a line should not exceed. -/
def lineLimit : Nat := 78

/-- A field in the making. -/
structure Fold where
  /-- The finished lines, the last first. -/
  finished : List Text := []
  /-- The line in the making. -/
  line : Text := []
  /-- Where the last encoded word of the line begins. -/
  word : Option Nat := none
  /-- Whether the next leaf has to be encoded. -/
  encoding : Bool := false
  /-- The number of open constructs whose parts must not be encoded. -/
  sealed : Nat := 0

namespace Fold

/-- The lines in order. -/
def lines (fold : Fold) : List Text := (fold.line :: fold.finished).reverse

/-- The white space at the end of a line, if there is any: one sign. -/
def stolen (line : Text) : Text :=
  match line.getLast? with
  | some sign => if isGap sign then [sign] else []
  | none => []

/-- The state after a line break, with white space at the end of the old line moved to the new
one. -/
def wrapped (fold : Fold) : Fold :=
  let gap := stolen fold.line
  { fold with
    finished := fold.line.take (fold.line.length - gap.length) :: fold.finished
    line := gap }

/-- The state with a text at the end of the line. -/
def put (text : Text) (fold : Fold) : Fold := { fold with line := fold.line ++ text }

/-- The signs that end a line of a field. -/
def isLineEnd (sign : Nat) : Bool := sign == Sign.newline || sign == Sign.carriageReturn

/-- Whether a text fits into the line. -/
def fits (text : Text) (fold : Fold) : Bool := fold.line.length + text.length ≤ lineLimit

/-! ## (1) Encoded words -/

/-- The longest start of a text, of at most the given number of signs, whose encoded word has
room. -/
def wordWithin (charset : EncodedWord.Charset) (text : Text) (room : Nat) :
    Nat → Outcome (Text × Nat)
  | 0 => ((EncodedWord.write charset []).mapError Failure.unencodable).map (·, 0)
  | count + 1 => do
    let word ← (EncodedWord.write charset (text.take (count + 1))).mapError Failure.unencodable
    if word.length ≤ room then return (word, min (count + 1) text.length)
    else wordWithin charset text room count

/-- The state with a text in as many encoded words as it needs, each on a line of its own but
the first. -/
def putWords (charset : EncodedWord.Charset) : Nat → Text → Fold → Outcome Fold
  | 0, _, fold => .ok fold
  | _, [], fold => .ok fold
  | fuel + 1, sign :: text, fold =>
    let frame := EncodedWord.frameLength + charset.name.length
    let room := lineLimit - fold.line.length
    if room ≤ frame then
      putWords charset fuel (sign :: text)
        { fold with finished := fold.line :: fold.finished, line := [Sign.space] }
    else do
      let (word, count) ← wordWithin charset (sign :: text) room (room - frame)
      let fold := fold.put word
      match (sign :: text).drop count with
      | [] => return fold
      | rest =>
        putWords charset fuel rest
          { fold with finished := fold.line :: fold.finished, line := [Sign.space], word := some 1 }

/-- The state with a text as encoded words. White space at its ends stays outside; if the line
has an encoded word already, it is read again together with what follows it. -/
def encode (charset : EncodedWord.Charset) (text : Text) (fold : Fold) : Outcome Fold :=
  let (text, fold) :=
    -- neighbouring encoded words become one
    match fold.word with
    | some start =>
      (Piece.writtenAll (freeText (fold.line.drop start ++ text)),
        { fold with line := fold.line.take start })
    | none => (text, fold)
  match text with
  | [] => .error (.header .textEnds)
  | first :: rest =>
    let (text, fold) :=
      if isGap first then
        (rest, (if fold.line.length = lineLimit then fold.wrapped else fold).put [first])
      else (first :: rest, fold)
    match text.getLast? with
    | none => .error (.header .textEnds)
    | some last => do
      let (text, gap) := if isGap last then (text.dropLast, [last]) else (text, [])
      let fold := { fold with word := some (fold.word.getD fold.line.length) }
      let fold ← putWords charset (2 * text.length + 2) text fold
      return { fold.put gap with encoding := false }

/-! ## (2) Pieces -/

/-- The state with a text on a line of its own, if it fits there and white space precedes it. -/
def ownLine? (piece : Piece) (text : Text) (fold : Fold) : Outcome (Option Fold) :=
  if (stolen fold.line).isEmpty then
    match piece.beginsBlank? with
    | none => .error (.header .noParts)
    | some true => .ok (some (fold.wrapped.put text))
    | some false => .ok none
  else .ok (some (fold.wrapped.put text))

/-- Whether a piece has to be encoded: it holds a sign that is not ASCII or ends a line, or it is
quoted text with special signs, or one before it had to be and was not. -/
def mustEncode (piece : Piece) (text : Text) (fold : Fold) : Bool :=
  fold.encoding || !text.isAscii || text.any isLineEnd ||
    match piece with
    | .leaf .quoted _ => text.any isSpecial
    | .leaf .remark _ => text.any isSpecial
    | _ => false

/-- The state with a leaf that need not be encoded. -/
def leaf (kind : Leaf) (text : Text) (fold : Fold) : Outcome Fold :=
  let written := (Piece.leaf kind text).written
  if fold.fits written then .ok (fold.put written)
  else do
    if written.length + 1 ≤ lineLimit then
      match ← ownLine? (.leaf kind text) written fold with
      | some fold => return { fold with word := none }
      | none => pure ()
    if fold.sealed = 0 then encode (.ofText written) written fold
    else
      match ← ownLine? (.leaf kind text) written fold with
      | some fold => return fold
      | none => return fold.put written

mutual
/-- The state with a piece. -/
def piece (fold : Fold) : Piece → Outcome Fold
  | .leaf kind text =>
    let written := (Piece.leaf kind text).written
    let encoding := mustEncode (.leaf kind text) written fold
    if encoding && fold.sealed = 0 then encode (.ofText written) written fold
    else leaf kind text { fold with encoding }
  | .node kind parts =>
    let written := (Piece.node kind parts).written
    let encoding := mustEncode (.node kind parts) written fold
    if encoding && fold.sealed = 0 then
      -- the words in it are encoded one by one; a sealed construct is tried on one line first
      if (Piece.node kind parts).isFree then pieces { fold with encoding := false } parts
      else do
        let fold := { fold with encoding := false, word := none }
        let inner ← pieces ({} : Fold) parts
        match inner.lines with
        | [line] =>
          if line.any (· == Sign.newline) then pieces fold parts
          else return (if fold.fits line then fold else fold.wrapped).put line
        | _ => pieces fold parts
    else
      let fold := { fold with encoding }
      if fold.fits written then .ok (fold.put written)
      else do
        -- a construct that fits on a line is not broken
        if written.length + 1 ≤ lineLimit then
          match ← ownLine? (.node kind parts) written fold with
          | some fold => return { fold with word := none }
          | none => pure ()
        if (Piece.node kind parts).isFree then pieces fold parts
        else
          let inner ← pieces { fold with sealed := fold.sealed + 1 } parts
          return { inner with sealed := inner.sealed - 1 }
/-- The state with pieces one after another. -/
def pieces (fold : Fold) : List Piece → Outcome Fold
  | [] => .ok fold
  | first :: rest => do
    let fold ← piece fold first
    pieces fold rest
end

end Fold

/-- The lines of a field. -/
def foldField (name : Text) (content : List Piece) : Outcome (List Text) := do
  let label := Piece.node .label [.leaf .word name, .sign Sign.colon]
  let gap := if content.isEmpty then [] else [Piece.node .blank [.leaf .blank [Sign.space]]]
  let fold ← Fold.pieces {} (label :: gap ++ [.node .plain content])
  return fold.lines

end Coursework.Mail
