import Coursework.Json.Basic
import Coursework.Text.Encoding

/-! # Reading JSON

A reader takes the text from some place on and returns a value with the text that follows, or a
fault. A fault tells how many code points are left at its place, so no position is carried
along; the message turns that into a line, a column and an offset.

* **`Json.read`** reads a whole text, **`Json.readValue`** one value at its start.
* **`Json.Fault`** is what can go wrong, **`Json.Fault.message`** its wording.

A name that an object repeats keeps its first place and its last value. Escapes may leave lone
surrogates in a text. A whole number of more than 4300 digits is refused. -/

namespace Coursework.Json

/-! ## (1) Faults -/

/-- The ways in which a text is no JSON. -/
inductive Cause
  /-- No value starts here. -/
  | value
  /-- No quoted field name starts here. -/
  | name
  /-- There is no colon after a field name. -/
  | colon
  /-- There is neither a comma nor the end of the list or object. -/
  | comma
  /-- The quoted text that starts here has no end. -/
  | unterminated
  /-- A control character stands in a quoted text. -/
  | control
  /-- A backslash is followed by no known letter. -/
  | escape
  /-- A code point is not spelled with four hexadecimal digits. -/
  | codePoint
  /-- Something follows the value. -/
  | extra
  /-- The text starts with a byte order mark. -/
  | byteOrderMark
  deriving DecidableEq, Repr

/-- Why a text cannot be read. -/
inductive Fault
  /-- It is malformed; `remaining` code points are left at the place. -/
  | malformed (cause : Cause) (remaining : Nat)
  /-- A whole number has more digits than the limit. -/
  | longNumeral (digits : Nat)
  deriving DecidableEq, Repr

/-- The greatest number of digits of a whole number. -/
def numeralLimit : Nat := 4300

/-- The wording of a cause. -/
def Cause.message : Cause → Text
  | value => "Expecting value"
  | name => "Expecting property name enclosed in double quotes"
  | colon => "Expecting ':' delimiter"
  | comma => "Expecting ',' delimiter"
  | unterminated => "Unterminated string starting at"
  | control => "Invalid control character at"
  | escape => "Invalid \\escape"
  | codePoint => "Invalid \\uXXXX escape"
  | extra => "Extra data"
  | byteOrderMark => "Unexpected UTF-8 BOM (decode using utf-8-sig)"

/-- The message of a whole number over the limit. -/
def longNumeralMessage (digits : Nat) : Text :=
  "Exceeds the limit (4300 digits) for integer string conversion: value has " ++
    Text.ofNat digits ++
    " digits; use sys.set_int_max_str_digits() to increase the limit"

/-- The offset of a place in a text, from what remains there. -/
def offset (source : Text) (remaining : Nat) : Nat := source.length - remaining

/-- The message of a fault in a text: cause, line, column and offset. -/
def Fault.message (source : Text) : Fault → Text
  | malformed cause remaining =>
    let position := offset source remaining
    let before := source.take position
    let line := before.count Sign.newline + 1
    let column := (before.reverse.takeWhile (· != Sign.newline)).length + 1
    cause.message ++ ": line " ++ Text.ofNat line ++ " column " ++ Text.ofNat column ++
      " (char " ++ Text.ofNat position ++ ")"
  | longNumeral digits => longNumeralMessage digits

/-- A malformed place: the text from it on. -/
def stop {α : Type} (cause : Cause) (rest : Text) : Except Fault α :=
  .error (.malformed cause rest.length)

/-! ## (2) Leaves -/

/-- The signs between values. -/
def isSeparator (sign : Nat) : Bool :=
  sign == Sign.space || sign == Sign.tab || sign == Sign.newline || sign == Sign.carriageReturn

/-- The text from the next sign that is no separator. -/
def skip (text : Text) : Text := text.dropWhile isSeparator

/-- The value of four hexadecimal digits. -/
def hexValue? (a b c d : Nat) : Option Nat := do
  let a ← Sign.hexValue? a
  let b ← Sign.hexValue? b
  let c ← Sign.hexValue? c
  let d ← Sign.hexValue? d
  return ((a * 16 + b) * 16 + c) * 16 + d

/-- The sign that a letter stands for after a backslash. -/
def unescape? (letter : Nat) : Option Nat :=
  if letter = Sign.doubleQuote || letter = Sign.backslash || letter = Sign.slash then some letter
  else if letter = 98 then some 8
  else if letter = 102 then some Sign.formFeed
  else if letter = 110 then some Sign.newline
  else if letter = 114 then some Sign.carriageReturn
  else if letter = 116 then some Sign.tab
  else none

/-- A sign before what a reader found. -/
def consText (sign : Nat) (found : Except Fault (Text × Text)) : Except Fault (Text × Text) :=
  found.map fun (quoted, rest) => (sign :: quoted, rest)

/-! ## (3) Quoted texts -/

/-- The code point that an escape spells and what follows; the text starts after the backslash,
`opening` with the quote that is open. Two escapes that spell a pair of surrogates are one code
point, unless the text ends with the second. -/
def readEscape (opening : Text) : Text → Except Fault (Nat × Text)
  | [] => stop .unterminated opening
  | 117 :: a :: b :: c :: d :: rest =>
    if rest.isEmpty then .error (.malformed .codePoint 5)
    else match hexValue? a b c d with
      | none => .error (.malformed .codePoint (rest.length + 5))
      | some high =>
        match rest with
        | Sign.backslash :: 117 :: e :: f :: g :: h :: after =>
          if Sign.isHighSurrogate high && !after.isEmpty then
            match hexValue? e f g h with
            | none => .error (.malformed .codePoint (after.length + 5))
            | some low =>
              .ok (if Sign.isLowSurrogate low then (Sign.ofSurrogates high low, after)
                else (high, rest))
          else .ok (high, rest)
        | _ => .ok (high, rest)
  | letter :: rest =>
    if letter = 117 then stop .codePoint (letter :: rest)
    else match unescape? letter with
      | some sign => .ok (sign, rest)
      | none => .error (.malformed .escape (rest.length + 2))

/-- A quoted text up to its closing quote, and what follows; `opening` starts with its opening
quote. Every sign and every escape takes a step. -/
def readText (opening : Text) : Nat → Text → Except Fault (Text × Text)
  | 0, _ => stop .unterminated opening
  | _ + 1, [] => stop .unterminated opening
  | steps + 1, sign :: rest =>
    if sign = Sign.doubleQuote then .ok ([], rest)
    else if sign = Sign.backslash then
      match readEscape opening rest with
      | .error fault => .error fault
      | .ok (sign, rest) => consText sign (readText opening steps rest)
    else if sign < Sign.space then stop .control (sign :: rest)
    else consText sign (readText opening steps rest)

/-! ## (4) Numbers -/

/-- The digits at the start of a text, and what follows. -/
def digits (text : Text) : Text × Text := text.span Sign.isDigit

/-- The fraction at the start of a text, its digits only; none without a digit. -/
def readFraction (text : Text) : Text × Text :=
  match text with
  | Sign.fullStop :: rest =>
    match digits rest with
    | ([], _) => ([], text)
    | found => found
  | _ => ([], text)

/-- The exponent at the start of a text: its sign and digits; none without a digit. -/
def readExponent (text : Text) : Bool × Text × Text :=
  match text with
  | [] => (false, [], [])
  | mark :: rest =>
    if mark = 101 || mark = 69 then
      let (negative, unsigned) := match rest with
        | Sign.hyphen :: rest => (true, rest)
        | Sign.plus :: rest => (false, rest)
        | _ => (false, rest)
      match digits unsigned with
      | ([], _) => (false, [], text)
      | found => (negative, found)
    else (false, [], text)

/-- The digits of a whole number: a zero alone, or digits without a leading zero. -/
def readWhole (text : Text) : Text × Text :=
  match text with
  | Sign.zero :: rest => ([Sign.zero], rest)
  | _ => digits text

/-- A number at the start of a text, after its sign; `start` is the text with the sign. -/
def readUnsigned (start : Text) (negative : Bool) (text : Text) : Except Fault (Json × Text) :=
  match readWhole text with
  | ([], _) => stop .value start
  | (whole, rest) =>
    let (fraction, rest) := readFraction rest
    let (negativeExponent, exponent, rest) := readExponent rest
    -- without fraction and exponent the number is whole, however large
    if fraction.isEmpty && exponent.isEmpty then
      if numeralLimit < whole.length then .error (.longNumeral whole.length)
      else
        let magnitude : Int := Text.natOfDigits whole
        .ok (.int (if negative then -magnitude else magnitude), rest)
    else
      let shift : Int := Text.natOfDigits exponent
      let written := whole ++ fraction
      .ok (.float (Binary64.ofDecimal negative (Text.natOfDigits written) written.length
        ((if negativeExponent then -shift else shift) - fraction.length)), rest)

/-- A number at the start of a text. -/
def readNumber (text : Text) : Except Fault (Json × Text) :=
  match text with
  | Sign.hyphen :: rest => readUnsigned text true rest
  | _ => readUnsigned text false text

/-! ## (5) Values -/

/-- The values that are spelled with a word. -/
def keywords : List (Text × Json) :=
  [("null", .null), ("true", .bool true), ("false", .bool false), ("NaN", .float .nan),
    ("Infinity", .float (.infinite false)), ("-Infinity", .float (.infinite true))]

/-- The value that a word at the start of a text spells. -/
def readKeyword? (text : Text) : Option (Json × Text) :=
  keywords.findSome? fun (word, value) => (text.after? word).map fun rest => (value, rest)

mutual

/-- A value at the start of a text, and what follows; every step takes one from `steps`, of which
there are at least twice as many as signs. -/
def readValue (steps : Nat) (text : Text) : Except Fault (Json × Text) :=
  match steps with
  | 0 => stop .value text
  | steps + 1 =>
    match text with
    | Sign.doubleQuote :: rest =>
      (readText text steps rest).map fun (quoted, rest) => (.text quoted, rest)
    | Sign.leftBrace :: rest =>
      match skip rest with
      | Sign.rightBrace :: rest => .ok (.object [], rest)
      | rest => (readMembers steps [] rest).map fun (fields, rest) => (.object fields, rest)
    | Sign.leftBracket :: rest =>
      match skip rest with
      | Sign.rightBracket :: rest => .ok (.list [], rest)
      | rest => (readElements steps rest).map fun (items, rest) => (.list items, rest)
    | _ =>
      match readKeyword? text with
      | some found => .ok found
      | none => readNumber text

/-- The elements of a list from one of them to the closing bracket. -/
def readElements (steps : Nat) (text : Text) : Except Fault (List Json × Text) :=
  match steps with
  | 0 => stop .value text
  | steps + 1 =>
    match readValue steps text with
    | .error fault => .error fault
    | .ok (value, rest) =>
      match skip rest with
      | Sign.rightBracket :: rest => .ok ([value], rest)
      | Sign.comma :: rest =>
        (readElements steps (skip rest)).map fun (items, rest) => (value :: items, rest)
      | rest => stop .comma rest

/-- The fields of an object from the name of one of them to the closing brace, after the fields
that were read before. -/
def readMembers (steps : Nat) (before : List (Text × Json)) (text : Text) :
    Except Fault (List (Text × Json) × Text) :=
  match steps with
  | 0 => stop .name text
  | steps + 1 =>
    match text with
    | Sign.doubleQuote :: rest =>
      match readText text steps rest with
      | .error fault => .error fault
      | .ok (name, rest) =>
        match skip rest with
        | Sign.colon :: rest =>
          match readValue steps (skip rest) with
          | .error fault => .error fault
          | .ok (value, rest) =>
            let fields := insertField before name value
            match skip rest with
            | Sign.rightBrace :: rest => .ok (fields, rest)
            | Sign.comma :: rest => readMembers steps fields (skip rest)
            | rest => stop .comma rest
        | rest => stop .colon rest
    | _ => stop .name text

end

/-- The value that a whole text spells. -/
def read (text : Text) : Except Fault Json :=
  match text with
  | Sign.byteOrderMark :: _ => stop .byteOrderMark text
  | _ =>
    match readValue (2 * text.length + 2) (skip text) with
    | .error fault => .error fault
    | .ok (value, rest) =>
      match skip rest with
      | [] => .ok value
      | rest => stop .extra rest

end Coursework.Json
