import Coursework.Text.Encoding
import Coursework.Text.Fold
import Coursework.Markdown.Line

/-! # Parts of links

A link has a label, a destination and perhaps a title. Only the label is ever shown, so most
readers here return what follows a part, and nothing where the part is not there. Of a destination
it matters whether it has an address.

* **`Link.afterDestination?`** and **`Link.afterTitle?`** read the two parts.
* **`Link.afterTarget?`** reads both in parentheses, **`Link.label?`** a label in brackets.
* **`Link.definition?`** reads a **`Definition`**, which gives a label a destination.
* **`Link.bytes`** are those of the address that a destination stands for. -/

namespace Coursework.Markdown

namespace Link

/-! ## (1) Leaves -/

/-- The text after spaces and tabs and at most one line end among them. -/
def skipGap (text : Text) : Text :=
  match text.dropWhile Line.isInline with
  | Sign.newline :: rest => rest.dropWhile Line.isInline
  | rest => rest

/-- Whether a backslash and the sign after it are an escape. -/
def isEscape (sign next : Nat) : Bool := sign == Sign.backslash && Sign.isPunctuation next

/-- What follows a destination in angle brackets, from its first sign on. -/
def afterAngle? : Text → Option Text
  | [] => none
  | sign :: text =>
    if sign = Sign.greaterThan then some text
    else if sign = Sign.lessThan || sign = Sign.newline then none
    else if sign = Sign.backslash then
      match text with
      | [] => none
      | next :: rest =>
        if Sign.isPunctuation next then afterAngle? rest else afterAngle? (next :: rest)
    else afterAngle? text

/-- What follows a bare destination: signs that are neither spaces nor controls, with every
parenthesis closed; `depth` counts those that are open. -/
def afterBare? (depth : Nat) : Text → Option Text
  | [] => if depth = 0 then some [] else none
  | sign :: text =>
    if sign = Sign.backslash then
      match text with
      | [] => if depth = 0 then some [] else none
      | next :: rest =>
        if Sign.isPunctuation next then afterBare? depth rest else afterBare? depth (next :: rest)
    else if sign = Sign.leftParenthesis then afterBare? (depth + 1) text
    else if sign = Sign.rightParenthesis then
      match depth with
      | 0 => some (sign :: text)
      | depth + 1 => afterBare? depth text
    else if sign ≤ Sign.space || sign = 127 then if depth = 0 then some (sign :: text) else none
    else afterBare? depth text

/-- What follows a destination. -/
def afterDestination? (text : Text) : Option Text :=
  match text with
  | Sign.lessThan :: rest => afterAngle? rest
  | _ => afterBare? 0 text

/-- The destination of which the text behind it is known, without its angle brackets. -/
def destination (text behind : Text) : Text :=
  let written := text.take (text.length - behind.length)
  match text with
  | Sign.lessThan :: _ => (written.drop 1).dropLast
  | _ => written

/-- Whether a blank line begins after a line end. -/
def blankFollows (text : Text) : Bool :=
  match text.dropWhile Line.isGap with
  | Sign.newline :: _ => true
  | _ => false

/-- What follows a title up to its closing sign; a blank line ends the search, and so does the
opening sign where it differs from the closing one. -/
def afterTitleBody? (opening closing : Nat) : Text → Option Text
  | [] => none
  | sign :: text =>
    if sign = closing then some text
    else if sign = opening then none
    else if sign = Sign.newline && blankFollows text then none
    else if sign = Sign.backslash then
      match text with
      | [] => none
      | next :: rest =>
        if Sign.isPunctuation next then afterTitleBody? opening closing rest
        else afterTitleBody? opening closing (next :: rest)
    else afterTitleBody? opening closing text

/-- What follows a title in quotes or parentheses. -/
def afterTitle? : Text → Option Text
  | Sign.doubleQuote :: text => afterTitleBody? Sign.doubleQuote Sign.doubleQuote text
  | Sign.singleQuote :: text => afterTitleBody? Sign.singleQuote Sign.singleQuote text
  | Sign.leftParenthesis :: text =>
    afterTitleBody? Sign.leftParenthesis Sign.rightParenthesis text
  | _ => none

/-! ## (2) Targets and labels -/

/-- What follows the target of a link: a destination and a title in parentheses, both of which
may be left out. -/
def afterTarget? (text : Text) : Option Text :=
  match text with
  | Sign.leftParenthesis :: inner =>
    match afterDestination? (skipGap inner) with
    | none => none
    | some rest =>
      let gap := skipGap rest
      let closed := match if gap.length < rest.length then afterTitle? gap else none with
        | some rest => skipGap rest
        | none => gap
      match closed with
      | Sign.rightParenthesis :: rest => some rest
      | _ => none
  | _ => none

/-- The destination in the target of a link. -/
def target? (text : Text) : Option Text :=
  (afterTarget? text).bind fun _ =>
    let inner := skipGap (text.drop 1)
    (afterDestination? inner).map (destination inner)

/-- The greatest length of a label. -/
def labelLimit : Nat := 999

/-- A label up to its closing bracket, and what follows; `room` is the length that it may have. -/
def labelBody? : Nat → Text → Option (Text × Text)
  | _, [] => none
  | room, sign :: text =>
    if sign = Sign.rightBracket then some ([], text)
    else if sign = Sign.leftBracket then none
    else match room with
      | 0 => none
      | room + 1 =>
        if sign = Sign.backslash then
          match text with
          | [] => none
          | next :: rest =>
            if next = Sign.newline then none
            else (labelBody? room rest).map fun (label, rest) => (sign :: next :: label, rest)
        else (labelBody? room text).map fun (label, rest) => (sign :: label, rest)

/-- A label in brackets and what follows. -/
def label? : Text → Option (Text × Text)
  | Sign.leftBracket :: text => labelBody? labelLimit text
  | _ => none

end Link

/-! ## (3) Definitions -/

/-- A link definition. -/
structure Definition where
  /-- The folded label. -/
  label : Text
  /-- The destination that it stands for. -/
  destination : Text
  deriving DecidableEq, Repr, Inhabited

/-- The definitions that count, in the order in which they were read, of a list that begins with
the latest: of each label the first. -/
def Definition.counted : List Definition → List Definition
  | [] => []
  | latest :: earlier =>
    counted earlier ++ if earlier.any (·.label == latest.label) then [] else [latest]

namespace Link

/-- What follows the end of a line, if nothing else is left on it. -/
def afterLineEnd? (text : Text) : Option Text :=
  match text.dropWhile Line.isInline with
  | Sign.newline :: rest => some rest
  | _ => none

/-- What follows the title of a definition and its line. -/
def afterDefinitionTitle? (text : Text) : Option Text :=
  let gap := skipGap text
  if gap.length < text.length then (afterTitle? gap).bind afterLineEnd? else none

/-- Whether a line begins like a definition. -/
def opensDefinition (line : Line) : Bool :=
  (Line.afterIndentation? 3 line).any fun text => text.head? == some Sign.leftBracket

/-- A definition and the lines that follow: a label, a colon, a destination and perhaps a title at
the end of a line. -/
def definition? (text : Text) : Option (Definition × Text) :=
  match Line.afterIndentation? 3 text with
  | none => none
  | some text =>
    match label? text with
    | some (label, Sign.colon :: rest) =>
      if label.fold.isEmpty then none
      else
        let target := skipGap rest
        match afterDestination? target with
        | none => none
        | some rest =>
          if rest.length = target.length then none
          else ((afterDefinitionTitle? rest).or (afterLineEnd? rest)).map fun after =>
            (⟨label.fold, destination target rest⟩, after)
    | _ => none

end Link

/-! ## (4) Addresses -/

/-- A text without the backslashes of its escapes. -/
def unescape : Text → Text
  | [] => []
  | [sign] => [sign]
  | sign :: next :: text =>
    if Link.isEscape sign next then next :: unescape text else sign :: unescape (next :: text)

/-- The bytes of the address of a destination. Character references are left as they are: they
stand for signs that have bytes. -/
def Link.bytes (destination : Text) : Except Unencodable (List Nat) := (unescape destination).utf8

end Coursework.Markdown
