import Coursework.Markdown.Emphasis
import Coursework.Markdown.Html
import Coursework.Markdown.Link

/-! # Text of markdown

The visible text of a heading or paragraph: emphasis, links and images leave the text within them,
code, HTML and addresses their own. References are known by the labels that were defined.

* **`Inline.scan`** cuts a text into pieces, closing links on the way.
* **`Inline.visible`** is the text that is left, **`Inline.destinations`** are where links lead. -/

namespace Coursework.Markdown.Inline

/-! ## (1) Code and addresses -/

/-- The text up to a run of exactly as many backticks as given, and what follows the run. -/
def codeBody? (count : Nat) : Nat → Text → Option (Text × Text)
  | 0, _ => none
  | _ + 1, [] => none
  | steps + 1, sign :: text =>
    if sign = Sign.backtick then
      let run := (text.takeWhile (· == Sign.backtick)).length + 1
      let rest := text.dropWhile (· == Sign.backtick)
      if run = count then some ([], rest)
      else (codeBody? count steps rest).map fun (code, rest) =>
        (List.replicate run Sign.backtick ++ code, rest)
    else (codeBody? count steps text).map fun (code, rest) => (sign :: code, rest)

/-- The text of a code span: line ends become spaces, and one space goes from either end if there
is one at both and something between. -/
def codeText (body : Text) : Text :=
  let body := body.map fun sign => if sign = Sign.newline then Sign.space else sign
  if !Text.isBlank body && body.head? = some Sign.space && body.getLast? = some Sign.space then
    (body.drop 1).dropLast
  else body

/-- The signs of a scheme after its first letter. -/
def isSchemeSign (sign : Nat) : Bool :=
  Sign.isAlphanumeric sign || sign == Sign.fullStop || sign == Sign.plus || sign == Sign.hyphen

/-- An address with a scheme, up to `>`, and what follows. -/
def link? (text : Text) : Option (Text × Text) :=
  let scheme := text.takeWhile isSchemeSign
  match text.drop scheme.length with
  | Sign.colon :: rest =>
    let isPath (sign : Nat) : Bool :=
      Sign.space < sign && sign != Sign.lessThan && sign != Sign.greaterThan
    if (scheme.take 1).any Sign.isLetter && 2 ≤ scheme.length && scheme.length ≤ 32 then
      match rest.dropWhile isPath with
      | Sign.greaterThan :: after => some (scheme ++ Sign.colon :: rest.takeWhile isPath, after)
      | _ => none
    else none
  | _ => none

/-- The signs of a mail address before `@`. -/
def isMailboxSign (sign : Nat) : Bool :=
  Sign.isAlphanumeric sign ||
    (Text.ofString ".!#$%&'*+/=?^_`\x7b|\x7d~-").any (· == sign)

/-- Whether a text is a label of a domain: letters, digits and inner hyphens, at most 63. -/
def isDomainLabel (label : Text) : Bool :=
  !label.isEmpty && label.length ≤ 63 && label.all Html.isNameSign &&
    label.head? != some Sign.hyphen && label.getLast? != some Sign.hyphen

/-- A mail address, up to `>`, and what follows. -/
def mail? (text : Text) : Option (Text × Text) :=
  let mailbox := text.takeWhile isMailboxSign
  match text.drop mailbox.length with
  | Sign.atSign :: rest =>
    let isDomain (sign : Nat) : Bool := Html.isNameSign sign || sign == Sign.fullStop
    let domain := rest.takeWhile isDomain
    match rest.drop domain.length with
    | Sign.greaterThan :: after =>
      if !mailbox.isEmpty && (Text.splitAt Sign.fullStop domain).all isDomainLabel then
        some (mailbox ++ Sign.atSign :: domain, after)
      else none
    | _ => none
  | _ => none

/-! ## (2) States -/

/-- A text that has been read up to some place. -/
structure State where
  /-- The pieces read, the latest first. -/
  pieces : List Piece := []
  /-- The sign before the place. -/
  before : Option Nat := none
  /-- Whether the place is within an HTML anchor. -/
  inAnchor : Bool := false

/-- A state with one more text. -/
def State.add (state : State) (content : Text) (last : Nat) : State :=
  { state with pieces := .text content 0 :: state.pieces, before := some last }

/-! ## (3) Brackets -/

/-- What follows a reference to a definition behind a link text, if its label is defined: its own
label in brackets, or the link text itself, alone or before empty brackets. -/
def afterReference? (labels : List Text) (behind rest : Text) : Option Text :=
  let own (after : Text) : Option Text :=
    match Link.labelBody? Link.labelLimit behind with
    | some (label, end_) =>
      if end_.length = rest.length && labels.contains label.fold then some after else none
    | none => none
  match Link.label? rest with
  | none => own rest
  | some ([], after) => own after
  | some (label, after) => if labels.contains label.fold then some after else none

/-- The nearest open bracket among pieces, the latest first: the pieces after it, the bracket and
the pieces before it. -/
def openBracket? : List Piece → Option (List Piece × (Bool × Bool × Text) × List Piece)
  | [] => none
  | .bracket image active behind :: pieces => some ([], (image, active, behind), pieces)
  | piece :: pieces => (openBracket? pieces).map fun (inner, bracket, outer) =>
      (piece :: inner, bracket, outer)

/-- Pieces before a link: their brackets cannot become links any more. -/
def deactivate (pieces : List Piece) : List Piece :=
  pieces.map fun
    | .bracket false _ behind => .bracket false false behind
    | piece => piece

/-- The state behind a closing bracket, and the text that follows. -/
def closeBracket (labels : List Text) (state : State) (rest : Text) : State × Text :=
  let literal : List Piece := [.text [Sign.rightBracket] 0]
  let state := { state with before := some Sign.rightBracket }
  match openBracket? state.pieces with
  | none => ({ state with pieces := literal ++ state.pieces }, rest)
  | some (inner, (image, active, behind), outer) =>
    let unmatched := ({ state with
      pieces := literal ++ inner ++ (Piece.bracket image active behind).plain :: outer }, rest)
    if !active then unmatched
    else match (Link.afterTarget? rest).or (afterReference? labels behind rest) with
      | none => unmatched
      | some after =>
        match (Piece.flatten inner.reverse).wrap? with
        | none => unmatched
        | some piece =>
          -- the sign before the next run is the last one of the target
          let last := if after.length < rest.length then
              (rest.take (rest.length - after.length)).getLast?
            else some Sign.rightBracket
          ({ state with
            pieces := piece :: if image then outer else deactivate outer
            before := last }, after)

/-! ## (4) Steps -/

/-- The signs that may be more than themselves. -/
def isSpecial (sign : Nat) : Bool :=
  sign == Sign.backslash || sign == Sign.backtick || sign == Sign.asterisk ||
    sign == Sign.underscore || sign == Sign.leftBracket || sign == Sign.rightBracket ||
    sign == Sign.exclamation || sign == Sign.lessThan || sign == Sign.space ||
    sign == Sign.newline

/-- The state behind a line end, whose next line begins with the first sign to be seen. -/
def newLine (state : State) (rest : Text) : State × Text :=
  (state.add [Sign.newline] Sign.newline, rest.dropWhile Sign.isBlank)

/-- The state behind what opens with `<`, and the text that follows. -/
def readAngle (state : State) (rest : Text) : State × Text :=
  match (link? rest).or (mail? rest) with
  | some (address, after) =>
    let content :=
      if state.inAnchor then Sign.lessThan :: address ++ [Sign.greaterThan] else address
    (state.add content Sign.greaterThan, after)
  | none =>
    match Html.afterInline? rest with
    | some after =>
      let html := rest.take (rest.length - after.length)
      -- addresses between the tags of an anchor stay as they are
      let small := html.map Sign.lower
      let opens (start : Text) : Bool :=
        Text.startsWith small (start ++ " ") || Text.startsWith small (start ++ ">")
      let state := state.add (Sign.lessThan :: html) Sign.greaterThan
      ({ state with
        inAnchor := if opens "a" then true else if opens "/a" then false else state.inAnchor },
        after)
    | none => (state.add [Sign.lessThan] Sign.lessThan, rest)

/-- The state behind the next part of a text, and the text that follows. -/
def step (labels : List Text) (state : State) (sign : Nat) (rest : Text) : State × Text :=
  if sign = Sign.backslash then
    match rest with
    | Sign.newline :: rest => newLine state rest
    | next :: rest =>
      if Sign.isPunctuation next then (state.add [next] next, rest)
      else (state.add [Sign.backslash] Sign.backslash, next :: rest)
    | [] => (state.add [Sign.backslash] Sign.backslash, [])
  else if sign = Sign.newline then newLine state rest
  else if sign = Sign.space then
    match rest.dropWhile (· == Sign.space) with
    | Sign.newline :: rest => newLine state rest
    | after => (state.add (sign :: rest.takeWhile (· == Sign.space)) Sign.space, after)
  else if sign = Sign.backtick then
    let count := (rest.takeWhile (· == Sign.backtick)).length + 1
    let rest := rest.dropWhile (· == Sign.backtick)
    match codeBody? count rest.length rest with
    | some (body, after) => (state.add (codeText body) Sign.backtick, after)
    | none => (state.add (List.replicate count Sign.backtick) Sign.backtick, rest)
  else if sign = Sign.asterisk || sign = Sign.underscore then
    let count := (rest.takeWhile (· == sign)).length + 1
    let after := rest.dropWhile (· == sign)
    ({ state with
      pieces := Piece.ofRun sign count state.before after.head? :: state.pieces
      before := some sign }, after)
  else if sign = Sign.leftBracket then
    ({ state with pieces := .bracket false true rest :: state.pieces, before := some sign }, rest)
  else if sign = Sign.exclamation then
    match rest with
    | Sign.leftBracket :: rest =>
      ({ state with
        pieces := .bracket true true rest :: state.pieces
        before := some Sign.leftBracket }, rest)
    | _ => (state.add [sign] sign, rest)
  else if sign = Sign.rightBracket then closeBracket labels state rest
  else if sign = Sign.lessThan then readAngle state rest
  else
    let plain := rest.takeWhile (! isSpecial ·)
    (state.add (sign :: plain) (plain.getLast?.getD sign), rest.drop plain.length)

/-- The state behind a text; every part takes one of the steps. -/
def scan (labels : List Text) : Nat → State → Text → State
  | 0, state, _ => state
  | _ + 1, state, [] => state
  | steps + 1, state, sign :: text =>
    let (state, rest) := step labels state sign text
    scan labels steps state rest

/-- The signs that are trimmed from the ends of a text. -/
def isTrimmed (sign : Nat) : Bool :=
  sign == Sign.space || sign == Sign.carriageReturn || sign == Sign.newline || sign == Sign.tab ||
    sign == Sign.formFeed

/-- The visible text of a source. -/
def visible (labels : List Text) (source : Text) : Text :=
  let source := Text.trim isTrimmed source
  (Piece.flatten (scan labels source.length {} source).pieces.reverse).content

/-! ## (5) Destinations -/

/-- The destination that the next part of a text gives a link: that of the target behind a closing
bracket, or an address outside of HTML anchors. -/
def destination? (state : State) (sign : Nat) (rest : Text) : Option Text :=
  if sign = Sign.rightBracket then
    match openBracket? state.pieces with
    | some (_, (_, true, _), _) => Link.target? rest
    | _ => none
  else if sign = Sign.lessThan && !state.inAnchor then (link? rest).map (·.1)
  else none

/-- The destinations in a text, which takes the steps of `scan`. -/
def destinationsFrom (labels : List Text) : Nat → State → Text → List Text
  | 0, _, _ => []
  | _ + 1, _, [] => []
  | steps + 1, state, sign :: text =>
    let (next, rest) := step labels state sign text
    (destination? state sign text).toList ++ destinationsFrom labels steps next rest

/-- The destinations of the links in a source; a link that refers to a definition adds none. -/
def destinations (labels : List Text) (source : Text) : List Text :=
  let source := Text.trim isTrimmed source
  destinationsFrom labels source.length {} source

end Coursework.Markdown.Inline
