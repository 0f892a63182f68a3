/-! # Texts as sequences of code points

A text is a list of Unicode code points. Lone surrogates are code points like any other here,
since a reply may spell one with an escape; which texts have an encoded form is a separate
question (`Coursework.Text.Encoding`).

* **`Sign`** names the code points that the formats of this library give a meaning to.
* **`Text.startsWith`**, **`Text.dropEnding?`** and **`Text.after?`** compare with a known piece.
* **`Text.lines`** and **`Text.joinWith`** take a text apart at a sign and put it together.
* **`Text.ofNat`**, **`Text.ofInt`** and **`Text.hexadecimal`** write numbers. -/

namespace Coursework

/-- A text: its code points in order, surrogates included. -/
abbrev Text := List Nat

/-! ## (1) Named code points -/

namespace Sign

/-- Horizontal tabulation. -/
@[match_pattern] abbrev tab : Nat := 9
/-- Line feed, the line end of every normalised text. -/
@[match_pattern] abbrev newline : Nat := 10
/-- Vertical tabulation. -/
@[match_pattern] abbrev verticalTab : Nat := 11
/-- Form feed. -/
@[match_pattern] abbrev formFeed : Nat := 12
/-- Carriage return. -/
@[match_pattern] abbrev carriageReturn : Nat := 13
/-- The space. -/
@[match_pattern] abbrev space : Nat := 32
/-- `!` -/
@[match_pattern] abbrev exclamation : Nat := 33
/-- `"` -/
@[match_pattern] abbrev doubleQuote : Nat := 34
/-- `#` -/
@[match_pattern] abbrev hash : Nat := 35
/-- `%` -/
@[match_pattern] abbrev percent : Nat := 37
/-- `'` -/
@[match_pattern] abbrev singleQuote : Nat := 39
/-- `(` -/
@[match_pattern] abbrev leftParenthesis : Nat := 40
/-- `)` -/
@[match_pattern] abbrev rightParenthesis : Nat := 41
/-- `*` -/
@[match_pattern] abbrev asterisk : Nat := 42
/-- `+` -/
@[match_pattern] abbrev plus : Nat := 43
/-- `,` -/
@[match_pattern] abbrev comma : Nat := 44
/-- `-` -/
@[match_pattern] abbrev hyphen : Nat := 45
/-- `.` -/
@[match_pattern] abbrev fullStop : Nat := 46
/-- `/` -/
@[match_pattern] abbrev slash : Nat := 47
/-- `0` -/
@[match_pattern] abbrev zero : Nat := 48
/-- `:` -/
@[match_pattern] abbrev colon : Nat := 58
/-- `;` -/
@[match_pattern] abbrev semicolon : Nat := 59
/-- `<` -/
@[match_pattern] abbrev lessThan : Nat := 60
/-- `=` -/
@[match_pattern] abbrev equals : Nat := 61
/-- `>` -/
@[match_pattern] abbrev greaterThan : Nat := 62
/-- `?` -/
@[match_pattern] abbrev question : Nat := 63
/-- `@` -/
@[match_pattern] abbrev atSign : Nat := 64
/-- `[` -/
@[match_pattern] abbrev leftBracket : Nat := 91
/-- `\` -/
@[match_pattern] abbrev backslash : Nat := 92
/-- `]` -/
@[match_pattern] abbrev rightBracket : Nat := 93
/-- `_` -/
@[match_pattern] abbrev underscore : Nat := 95
/-- The grave accent that fences code. -/
@[match_pattern] abbrev backtick : Nat := 96
/-- `{` -/
@[match_pattern] abbrev leftBrace : Nat := 123
/-- `}` -/
@[match_pattern] abbrev rightBrace : Nat := 125
/-- `~` -/
@[match_pattern] abbrev tilde : Nat := 126
/-- The byte order mark. -/
@[match_pattern] abbrev byteOrderMark : Nat := 0xFEFF

/-- The ASCII digits. -/
def isDigit (sign : Nat) : Bool := 48 ≤ sign && sign ≤ 57

/-- The ASCII capital letters. -/
def isUpper (sign : Nat) : Bool := 65 ≤ sign && sign ≤ 90

/-- The ASCII small letters. -/
def isLower (sign : Nat) : Bool := 97 ≤ sign && sign ≤ 122

/-- The ASCII letters. -/
def isLetter (sign : Nat) : Bool := isUpper sign || isLower sign

/-- The ASCII letters and digits. -/
def isAlphanumeric (sign : Nat) : Bool := isLetter sign || isDigit sign

/-- The ASCII punctuation signs. -/
def isPunctuation (sign : Nat) : Bool :=
  (33 ≤ sign && sign ≤ 47) || (58 ≤ sign && sign ≤ 64) || (91 ≤ sign && sign ≤ 96) ||
    (123 ≤ sign && sign ≤ 126)

/-- The small form of an ASCII capital; every other sign is its own. -/
def lower (sign : Nat) : Nat := if isUpper sign then sign + 32 else sign

/-- The value of a hexadecimal digit, of either case. -/
def hexValue? (sign : Nat) : Option Nat :=
  if isDigit sign then some (sign - 48)
  else if 97 ≤ sign && sign ≤ 102 then some (sign - 87)
  else if 65 ≤ sign && sign ≤ 70 then some (sign - 55)
  else none

/-- The small hexadecimal digit of a value below sixteen. -/
def hexDigit (value : Nat) : Nat := if value < 10 then 48 + value else 87 + value

/-- The capital hexadecimal digit of a value below sixteen. -/
def capitalHexDigit (value : Nat) : Nat := if value < 10 then 48 + value else 55 + value

end Sign

namespace Text

/-! ## (2) Texts from literals -/

/-- The code points of a string literal. -/
def ofString (literal : String) : Text := literal.toList.map Char.toNat

instance : Coe String Text := ⟨ofString⟩

/-! ## (3) Comparing with a known piece -/

/-- Whether the text begins with the piece. -/
def startsWith : Text → Text → Bool
  | _, [] => true
  | [], _ :: _ => false
  | a :: text, b :: piece => a == b && startsWith text piece

/-- Whether the text ends with the piece. -/
def endsWith (text piece : Text) : Bool := startsWith text.reverse piece.reverse

/-- What follows the piece, if the text begins with it. -/
def after? : Text → Text → Option Text
  | text, [] => some text
  | [], _ :: _ => none
  | a :: text, b :: piece => if a = b then after? text piece else none

/-- What precedes the piece, if the text ends with it. -/
def dropEnding? (text piece : Text) : Option Text :=
  (after? text.reverse piece.reverse).map List.reverse

/-- What follows the first place where the piece stands. -/
def afterFirst? (piece : Text) : Text → Option Text
  | [] => if piece.isEmpty then some [] else none
  | a :: text => match after? (a :: text) piece with
    | some rest => some rest
    | none => afterFirst? piece text

/-- Whether the piece stands somewhere in the text. -/
def contains (text piece : Text) : Bool := (afterFirst? piece text).isSome

/-! ## (4) Taking apart and putting together -/

/-- The pieces between the places where the sign stands; there is always one. -/
def splitAt (sign : Nat) : Text → List Text
  | [] => [[]]
  | a :: text =>
    if a = sign then [] :: splitAt sign text
    else match splitAt sign text with
      | [] => [[a]]
      | piece :: pieces => (a :: piece) :: pieces

/-- The lines of a text, its line feeds left out. -/
def lines (text : Text) : List Text := splitAt Sign.newline text

/-- The pieces with the joint between each two. -/
def joinWith (joint : Text) : List Text → Text
  | [] => []
  | [piece] => piece
  | piece :: next :: pieces => piece ++ joint ++ joinWith joint (next :: pieces)

/-- Carriage returns, alone or before a line feed, become line feeds. -/
def unixLines : Text → Text
  | Sign.carriageReturn :: Sign.newline :: text => Sign.newline :: unixLines text
  | Sign.carriageReturn :: text => Sign.newline :: unixLines text
  | a :: text => a :: unixLines text
  | [] => []

/-- The text without the given signs at its two ends. -/
def trim (dropped : Nat → Bool) (text : Text) : Text :=
  ((text.dropWhile dropped).reverse.dropWhile dropped).reverse

/-- The text without the given signs at its end. -/
def trimEnd (dropped : Nat → Bool) (text : Text) : Text :=
  (text.reverse.dropWhile dropped).reverse

/-! ## (5) Numbers -/

/-- The decimal digits of a number. -/
def ofNat (number : Nat) : Text := (Nat.toDigits 10 number).map Char.toNat

/-- The decimal digits of an integer, after `-` for a negative one. -/
def ofInt : Int → Text
  | .ofNat number => ofNat number
  | .negSucc number => Sign.hyphen :: ofNat (number + 1)

/-- The lowest `width` hexadecimal digits of a number. -/
def hexadecimal : Nat → Nat → Text
  | 0, _ => []
  | width + 1, number => hexadecimal width (number / 16) ++ [Sign.hexDigit (number % 16)]

/-- The number that a run of ASCII digits spells. -/
def natOfDigits (digits : Text) : Nat :=
  digits.foldl (fun number digit => number * 10 + (digit - Sign.zero)) 0

end Text

end Coursework
