import Coursework.Mail.EncodedWord

/-! # Free text in header fields

A subject is words and white space. An encoded word stands for its text, also within a word, and
white space between two of them is dropped.

* **`Mail.freeText`** reads such a text. -/

namespace Coursework.Mail

/-- The signs that white space begins with. -/
def isGap (sign : Nat) : Bool := sign = Sign.space || sign = Sign.tab

/-- A text with its runs of white space as leaves of their own. -/
def gapsAndWords (fuel : Nat) (text : Text) : List Piece :=
  match fuel, text with
  | 0, _ => []
  | _, [] => []
  | fuel + 1, sign :: rest =>
    if isGap sign then
      .leaf .blank (sign :: rest.takeWhile Sign.isBlank) ::
        gapsAndWords fuel (rest.dropWhile Sign.isBlank)
    else
      .leaf .word (sign :: rest.takeWhile (! isGap ·)) ::
        gapsAndWords fuel (rest.dropWhile (! isGap ·))

/-- The tree of a decoded word. -/
def decodedWord (text : Text) : Piece := .node .encodedWord (gapsAndWords text.length text)

/-- What precedes the next encoded word, and the rest. -/
def beforeFrame : Text → Text × Text
  | Sign.equals :: Sign.question :: text => ([], Sign.equals :: Sign.question :: text)
  | sign :: text =>
    let (before, rest) := beforeFrame text
    (sign :: before, rest)
  | [] => ([], [])

/-- The word at the start of a text and the rest: it ends before white space, and before an
encoded word in it unless what stands at the start is a malformed one. -/
def wordAndRest (malformed : Bool) (text : Text) : Text × Text :=
  let word := text.takeWhile (! isGap ·)
  if !malformed && EncodedWord.occursIn word then beforeFrame text
  else (word, text.dropWhile (! isGap ·))

/-- The leaves and encoded words of a text. -/
def freeTextFrom : Nat → Text → List Piece
  | 0, _ => []
  | _, [] => []
  | fuel + 1, sign :: rest =>
    if isGap sign then
      .leaf .blank (sign :: rest.takeWhile Sign.isBlank) ::
        freeTextFrom fuel (rest.dropWhile Sign.isBlank)
    else
      match EncodedWord.read (sign :: rest) with
      | .found decoded rest => decodedWord decoded :: freeTextFrom fuel rest
      | .malformed =>
        let (word, rest) := wordAndRest true (sign :: rest)
        .leaf .word word :: freeTextFrom fuel rest
      | .absent =>
        let (word, rest) := wordAndRest false (sign :: rest)
        .leaf .word word :: freeTextFrom fuel rest

/-- The pieces of a free text. -/
def freeText (text : Text) : List Piece := Piece.joinWords (freeTextFrom text.length text)

end Coursework.Mail
