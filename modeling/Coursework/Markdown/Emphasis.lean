import Coursework.Text.Blank
import Coursework.Text.Punctuation

/-! # Emphasis

A line of text is a sequence of pieces: plain texts, runs of emphasis marks and open brackets. A
run that can close is matched with the nearest run of the same mark before it that can open; what
stands between the two becomes one piece, and the marks that were used are dropped.

* **`Piece`** is the type; **`Piece.ofRun`** decides from the signs around a run what it can do.
* **`Piece.resolve`** matches runs, **`Piece.flatten`** is the text that is left.

Every matched pair counts as one level; a piece with `levelLimit` levels is not put into another
one. -/

namespace Coursework.Markdown

/-- A run of emphasis marks. -/
structure Run where
  /-- The mark, `*` or `_`. -/
  mark : Nat
  /-- How many there were. -/
  initial : Nat
  /-- How many are left. -/
  remaining : Nat
  /-- Whether it can open emphasis. -/
  opens : Bool
  /-- Whether it can close emphasis. -/
  closes : Bool
  deriving DecidableEq, Repr

/-- A piece of a line. -/
inductive Piece
  /-- A text, and the number of levels within it. -/
  | text (content : Text) (levels : Nat)
  /-- A run of emphasis marks. -/
  | run (value : Run)
  /-- An open bracket, of an image or a link; whether it may still become one, and the text behind
  it. -/
  | bracket (image active : Bool) (behind : Text)
  deriving DecidableEq, Repr

/-- The number of levels of emphasis, links and images that may stand within each other. -/
def levelLimit : Nat := 20

namespace Piece

/-! ## (1) Runs -/

/-- Whether a neighbour of a run counts as white space; so do the ends of a text. -/
def isGap (neighbour : Option Nat) : Bool := neighbour.all Sign.isBlank

/-- Whether a neighbour of a run is punctuation. -/
def isMark (neighbour : Option Nat) : Bool := neighbour.any Sign.isMark

/-- A run of marks between two neighbours. It can open before a word and close behind one; an
underscore does neither within a word. -/
def ofRun (mark count : Nat) (before after : Option Nat) : Piece :=
  let left := !isGap after && (!isMark after || isGap before || isMark before)
  let right := !isGap before && (!isMark before || isGap after || isMark after)
  let within := mark == Sign.underscore
  .run ⟨mark, count, count, left && (!within || !right || isMark before),
    right && (!within || !left || isMark after)⟩

/-- Whether two runs may be matched: the same mark, and if either can do both, their lengths do
not add up to a multiple of three unless both are. -/
def matching (opener closer : Run) : Bool :=
  opener.mark == closer.mark && opener.opens &&
    !((opener.closes || closer.opens) && closer.initial % 3 != 0 &&
      (opener.initial + closer.initial) % 3 == 0)

/-! ## (2) Texts -/

/-- The text of one piece, the marks of a run and an open bracket as they are. -/
def content : Piece → Text
  | text content _ => content
  | run value => List.replicate value.remaining value.mark
  | bracket true _ _ => "!["
  | bracket false _ _ => "["

/-- The levels within a piece. -/
def levels : Piece → Nat
  | text _ levels => levels
  | run _ => 0
  | bracket _ _ _ => 0

/-- Pieces as one piece of text. -/
def join (pieces : List Piece) : Piece :=
  .text (pieces.flatMap content) ((pieces.map levels).foldl max 0)

/-- A piece as plain text. -/
def plain (piece : Piece) : Piece := .text piece.content piece.levels

/-- A piece with one level more around it; nothing if there are too many. -/
def wrap? (piece : Piece) : Option Piece :=
  if piece.levels < levelLimit then some (.text piece.content (piece.levels + 1)) else none

/-! ## (3) Matching -/

/-- The run that a piece is, if it may open what another run closes. -/
def openedBy? (closer : Run) : Piece → Option Run
  | run opener => if matching opener closer then some opener else none
  | text _ _ => none
  | bracket _ _ _ => none

/-- The nearest opener for a run among pieces, the latest first: the pieces after it, the opener
and the pieces before it. -/
def opener? (closer : Run) : List Piece → Option (List Piece × Run × List Piece)
  | [] => none
  | piece :: pieces =>
    match openedBy? closer piece with
    | some opener => some ([], opener, pieces)
    | none => (opener? closer pieces).map fun (inner, opener, outer) =>
        (piece :: inner, opener, outer)

/-- The pieces after a run has closed what it can, the latest first; each match takes a step. -/
def close (closer : Run) : Nat → List Piece → List Piece
  | 0, pieces => pieces
  | steps + 1, pieces =>
    let unmatched := if closer.opens then run closer :: pieces else plain (run closer) :: pieces
    match opener? closer pieces with
    | none => unmatched
    | some (inner, opener, outer) =>
      match wrap? (join inner.reverse) with
      | none => unmatched
      | some wrapped =>
        let used := if 2 ≤ opener.remaining && 2 ≤ closer.remaining then 2 else 1
        let opener := { opener with remaining := opener.remaining - used }
        let closer := { closer with remaining := closer.remaining - used }
        let pieces := wrapped :: if opener.remaining = 0 then outer else run opener :: outer
        if closer.remaining = 0 then pieces else close closer steps pieces

/-- Pieces with all runs matched that can be, after the pieces given, the latest first. -/
def resolveFrom (before : List Piece) : List Piece → List Piece
  | [] => before
  | run value :: pieces =>
    resolveFrom (if value.closes then close value value.remaining before else run value :: before)
      pieces
  | piece :: pieces => resolveFrom (piece :: before) pieces

/-- Pieces with all runs matched that can be. -/
def resolve (pieces : List Piece) : List Piece := (resolveFrom [] pieces).reverse

/-- Pieces as one piece of text, their runs matched. -/
def flatten (pieces : List Piece) : Piece := join (resolve pieces)

end Piece

end Coursework.Markdown
