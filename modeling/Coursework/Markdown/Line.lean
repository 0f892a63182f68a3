import Coursework.Text.Blank
import Coursework.Text.Digit

/-! # Lines of markdown

What a line can be on its own: blank, indented, a heading, an underline, a thematic break, a code
fence, a line of a quote or of a list. At most three spaces may stand before a mark; in a list
item there may be fewer, so the number is an argument.

* **`Line.isBlank`**, **`Line.isIndented`**, **`Line.isThematicBreak`** are classes of lines.
* **`Line.heading?`**, **`Line.underline?`**, **`Line.fence?`**, **`Line.quoted?`** and
  **`Line.listMark?`** read a mark off a line.
* **`Line.expandTab`** replaces a tab that indents a line. -/

namespace Coursework.Markdown

/-- A line without its line end. -/
abbrev Line := Text

namespace Line

/-! ## (1) White space -/

/-- The signs of blank lines. -/
def isGap (sign : Nat) : Bool :=
  sign == Sign.space || sign == Sign.tab || sign == Sign.verticalTab || sign == Sign.formFeed

/-- The spaces and tabs within a line. -/
def isInline (sign : Nat) : Bool := sign == Sign.space || sign == Sign.tab

/-- A line without anything to see. -/
def isBlank (line : Line) : Bool := line.all isGap

/-- The number of spaces at the start of a line. -/
def indentation (line : Line) : Nat := (line.takeWhile (· == Sign.space)).length

/-- A line without the spaces at its start. -/
def unindented (line : Line) : Line := line.dropWhile (· == Sign.space)

/-- A line without its spaces at the start, if there are at most as many as given. -/
def afterIndentation? (most : Nat) (line : Line) : Option Line :=
  if line.indentation ≤ most then some line.unindented else none

/-- A line that is indented like code: four spaces, or spaces and a tab, and something more. -/
def isIndented (line : Line) : Bool :=
  (4 ≤ line.indentation && 4 < line.length) ||
    match line.unindented with
    | Sign.tab :: _ :: _ => true
    | _ => false

/-- A tab after at most three spaces becomes spaces up to a width, at least none. -/
def expandTab (width : Nat) (line : Line) : Line :=
  match afterIndentation? 3 line with
  | some (Sign.tab :: rest) =>
    List.replicate (max width line.indentation) Sign.space ++ rest
  | _ => line

/-- A tab after at most three spaces becomes four spaces more. -/
def widenTab (line : Line) : Line :=
  match afterIndentation? 3 line with
  | some (Sign.tab :: rest) => List.replicate (line.indentation + 4) Sign.space ++ rest
  | _ => line

/-- A line without its first spaces, as many as given at most. -/
def dropSpaces : Nat → Line → Line
  | count + 1, Sign.space :: line => dropSpaces count line
  | _, line => line

/-! ## (2) Headings and breaks -/

/-- The signs that are trimmed from the text of a heading. -/
def isTrimmed (sign : Nat) : Bool := (9 ≤ sign && sign ≤ 13) || sign == Sign.space

/-- The text of a heading without the closing run of number signs, which stands after white space
or alone. -/
def withoutClosing (content : Text) : Text :=
  let body := content.stripEnd.trimEnd (· == Sign.hash)
  if body.length = content.stripEnd.length then content
  else if body.isEmpty then []
  else if (body.getLast?.map Sign.isBlank).getD false then body.stripEnd
  else content

/-- The depth and the text of a heading with number signs. -/
def heading? (most : Nat) (line : Line) : Option (Nat × Text) :=
  match afterIndentation? most line with
  | none => none
  | some rest =>
    let depth := (rest.takeWhile (· == Sign.hash)).length
    let content := rest.dropWhile (· == Sign.hash)
    if 1 ≤ depth && depth ≤ 6 && (content.take 1).all isInline then
      some (depth, withoutClosing (Text.trim isTrimmed content))
    else none

/-- The depth of the heading that a line underlines: one for `=`, two for `-`. -/
def underline? (line : Line) : Option Nat :=
  match afterIndentation? 3 line with
  | none => none
  | some rest =>
    let marks := rest.takeWhile fun sign => sign == Sign.equals || sign == Sign.hyphen
    let gap := rest.dropWhile fun sign => sign == Sign.equals || sign == Sign.hyphen
    match marks.getLast? with
    | none => none
    | some mark => if gap.all isInline then some (if mark = Sign.equals then 1 else 2) else none

/-- Three or more of one mark, with spaces and tabs between them. -/
def isThematicBreak (most : Nat) (line : Line) : Bool :=
  match afterIndentation? most line with
  | some (mark :: rest) =>
    (mark == Sign.hyphen || mark == Sign.underscore || mark == Sign.asterisk) &&
      rest.all (fun sign => sign == mark || isInline sign) && 2 ≤ rest.count mark
  | _ => false

/-! ## (3) Fences -/

/-- The opening fence of a block of code. -/
structure Fence where
  /-- The spaces before it. -/
  indentation : Nat
  /-- The sign that it is made of. -/
  mark : Nat
  /-- How many there are. -/
  length : Nat
  /-- What follows on the line. -/
  info : Text

/-- The opening fence on a line. -/
def fence? (most : Nat) (line : Line) : Option Fence :=
  match afterIndentation? most line with
  | some (mark :: rest) =>
    if mark = Sign.backtick || mark = Sign.tilde then
      let length := (rest.takeWhile (· == mark)).length + 1
      if 3 ≤ length then
        some ⟨line.indentation, mark, length, (rest.dropWhile (· == mark)).dropWhile isInline⟩
      else none
    else none
  | _ => none

/-- Whether a fence may open code: the text after backticks holds none. -/
def Fence.opens (fence : Fence) : Bool :=
  fence.mark != Sign.backtick || !fence.info.any (· == Sign.backtick)

/-- Whether a line closes a fence: at least as many of its marks and nothing more. -/
def Fence.isClosedBy (fence : Fence) (line : Line) : Bool :=
  match afterIndentation? 3 line with
  | none => false
  | some rest =>
    fence.length ≤ (rest.takeWhile (· == fence.mark)).length &&
      (rest.dropWhile (· == fence.mark)).all isInline

/-! ## (4) Quotes and lists -/

/-- What follows the mark of a quote. -/
def quoted? (most : Nat) (line : Line) : Option Line :=
  match afterIndentation? most line with
  | some (Sign.greaterThan :: rest) => some rest
  | _ => none

/-- The mark of a list item and what follows it. -/
structure ListMark where
  /-- The spaces before the mark. -/
  indentation : Nat
  /-- The digits of a number. -/
  digits : Text
  /-- The bullet, or the sign after the number. -/
  sign : Nat
  /-- The rest of the line. -/
  rest : Line

namespace ListMark

/-- Whether the list has numbers. -/
def isOrdered (mark : ListMark) : Bool :=
  mark.sign == Sign.fullStop || mark.sign == Sign.rightParenthesis

/-- The number of an item. -/
def number (mark : ListMark) : Nat :=
  mark.digits.foldl (fun number digit => number * 10 + (Sign.digitValue? digit).getD 0) 0

/-- The width of the mark and of the spaces before it. -/
def width (mark : ListMark) : Nat := mark.indentation + mark.digits.length + 1

end ListMark

/-- Whether a list mark may stand before a text: the text is empty or set off. -/
def isSetOff (rest : Line) : Bool := (rest.take 1).all isInline

/-- The bullets. -/
def isBullet (sign : Nat) : Bool :=
  sign == Sign.asterisk || sign == Sign.plus || sign == Sign.hyphen

/-- The mark of a list item on a line: a bullet, or up to nine digits before a point or a
parenthesis. -/
def listMark? (most : Nat) (line : Line) : Option ListMark :=
  match afterIndentation? most line with
  | none => none
  | some text =>
    let digits := text.takeWhile Sign.isDecimal
    match text.drop digits.length with
    | [] => none
    | sign :: rest =>
      if !isSetOff rest then none
      else if digits.isEmpty then
        if isBullet sign then some ⟨line.indentation, [], sign, rest⟩ else none
      else if digits.length ≤ 9 && (sign = Sign.fullStop || sign = Sign.rightParenthesis) then
        some ⟨line.indentation, digits, sign, rest⟩
      else none

/-- The mark of a further item of a list with the given sign. -/
def nextMark? (most sign : Nat) (line : Line) : Option ListMark :=
  (listMark? most line).filter (·.sign == sign)

end Line

end Coursework.Markdown
