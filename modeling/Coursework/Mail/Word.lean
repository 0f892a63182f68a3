import Coursework.Mail.Reader
import Coursework.Mail.Unstructured

/-! # Words of addresses

The leaves of the grammar of addresses: white space with comments everywhere, words, encoded words
in their place, quoted strings, and words joined by full stops.

* **`Mail.blanks`** reads white space and comments, **`Mail.word`** a word,
  **`Mail.quotedString`** a quoted one, **`Mail.dotAtom`** words with full stops between them.
* **`Mail.phrase`** reads the words of a name. -/

namespace Coursework.Mail

open Reader

/-! ## (1) Signs -/

/-- The signs with a meaning in addresses. -/
def isSpecial (sign : Nat) : Bool := ("()<>@,:;.\\\"[]" : Text).any (· == sign)

/-- The signs that white space and comments begin with. -/
def opensBlank (sign : Nat) : Bool := isGap sign || sign = Sign.leftParenthesis

/-- The signs that end a word. -/
def endsAtom (sign : Nat) : Bool := isSpecial sign || isGap sign

/-- The signs that end a phrase. -/
def endsPhrase (sign : Nat) : Bool :=
  isSpecial sign && sign != Sign.fullStop && sign != Sign.doubleQuote &&
    sign != Sign.leftParenthesis

/-- A full stop. -/
def dot : Piece := .leaf .dot [Sign.fullStop]

/-! ## (2) White space and comments -/

/-- White space. -/
def gap : Reader Piece := do
  let text ← get
  set (text.dropWhile Sign.isBlank)
  return .leaf .blank (text.takeWhile Sign.isBlank)

/-- A text up to white space or one of the given signs, a backslash taking away the meaning of the
sign behind it. -/
def unescapedUntil (ends : Nat → Bool) : Text → Text × Text
  | [] => ([], [])
  | Sign.backslash :: [] => ([], [])
  | Sign.backslash :: sign :: text =>
    if isGap sign then ([], sign :: text)
    else
      let (before, rest) := unescapedUntil ends text
      (sign :: before, rest)
  | sign :: text =>
    if isGap sign || ends sign then ([], sign :: text)
    else
      let (before, rest) := unescapedUntil ends text
      (sign :: before, rest)

/-- A leaf that ends before white space or one of the given signs. -/
def leafUntil (kind : Leaf) (ends : Nat → Bool) : Reader Piece := do
  let (before, rest) := unescapedUntil ends (← get)
  set rest
  return .leaf kind before

/-- A comment, with the comments in it; one that is not closed ends with the text. -/
def comment : Nat → Reader Piece
  | 0 => mismatch
  | depth + 1 => do
    skip
    let parts ← many do
      match ← peek with
      | none => return none
      | some sign =>
        if sign = Sign.rightParenthesis then return none
        else if isGap sign then return some (← gap)
        else if sign = Sign.leftParenthesis then return some (← comment depth)
        else return some (← leafUntil .remark fun sign =>
          sign = Sign.leftParenthesis || sign = Sign.rightParenthesis)
    skip
    return .node .comment parts

/-- White space and comments. -/
def blanks : Reader Piece := do
  let parts ← many do
    match ← peek with
    | none => return none
    | some sign =>
      if isGap sign then return some (← gap)
      else if sign = Sign.leftParenthesis then return some (← comment (← get).length)
      else return none
  return .node .blank parts

/-- White space and comments, if they stand here. -/
def blanks? : Reader (List Piece) := when opensBlank blanks

/-! ## (3) Words -/

/-- An encoded word. -/
def encodedWord : Reader Piece := do
  match EncodedWord.read (← get) with
  | .found text rest => set rest; return decodedWord text
  | .malformed => mismatch
  | .absent => mismatch

/-- A run of signs that end no word. -/
def run : Reader Piece := do
  let text ← get
  match text.takeWhile (! endsAtom ·) with
  | [] => mismatch
  | word => set (text.dropWhile (! endsAtom ·)); return .leaf .word word

/-- A quoted string without what surrounds it; one that is not closed ends with the text. -/
def quotation : Reader Piece := do
  skip
  let isQuote := fun sign => sign == Sign.doubleQuote
  let empty ← when isQuote (leafUntil .quoted isQuote)
  let parts ← many do
    match ← peek with
    | none => return none
    | some sign =>
      if isQuote sign then return none
      else if isGap sign then return some (← gap)
      else return some (← encodedWord.orElse (leafUntil .quoted isQuote))
  skip
  return .node .quotation (Piece.joinWords (empty ++ parts))

/-- A quoted string. -/
def quotedString : Reader Piece := do
  let content ← quotation
  return .node .plain (content :: (← blanks?))

/-- A word that is not quoted. -/
def atom : Reader Piece := do
  let before ← blanks?
  if ← isNext endsAtom then mismatch
  let content ← encodedWord.orElse run
  return .node .plain (before ++ content :: (← blanks?))

/-- A word or a quoted string. -/
def word : Reader Piece := do
  let _ ← next
  let before ← blanks?
  match ← peek with
  | none => mismatch
  | some sign =>
    let content ←
      if sign = Sign.doubleQuote then quotedString
      else if isSpecial sign then mismatch
      else atom
    return content.prepend before

/-- A word, or white space and comments where no word follows. -/
def wordOrBlanks : Reader Piece :=
  word.orElse do if ← isNext opensBlank then blanks else mismatch

/-- Words joined by single full stops. -/
def dottedRun : Reader Piece := do
  if !(← isNext fun sign => !endsAtom sign) then mismatch
  let parts ← many do
    if ← isNext fun sign => !endsAtom sign then
      let word ← run
      return some (word :: (← when (· == Sign.fullStop) (do skip; return dot)))
    else return none
  match parts.getLast? with
  | some [_, _] => mismatch
  | _ => return .node .plain parts.flatten

/-- An encoded word, or words joined by single full stops. -/
def dotAtom : Reader Piece := do
  let before ← blanks?
  let content ← encodedWord.orElse dottedRun
  return .node .dotAtom (before ++ content :: (← blanks?))

/-- Words, full stops, white space and comments up to a sign that ends a phrase. -/
def phrase : Reader (List Piece) := do
  let first ← (do return [← word]).orElse (pure [])
  let rest ← many do
    match ← peek with
    | none => return none
    | some sign =>
      if endsPhrase sign then return none
      else if sign = Sign.fullStop then skip; return some dot
      else return some (← wordOrBlanks)
  return first ++ rest

end Coursework.Mail
