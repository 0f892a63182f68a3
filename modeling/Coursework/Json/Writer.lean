import Coursework.Json.Reader

/-! # Writing JSON

A value is written in ASCII: every other sign of a text is an escape, one for each UTF-16 unit.
A layout says what stands between items and after a colon, and whether items stand on lines of
their own.

* **`Json.write`** writes a value in a layout.
* **`Layout.compact`** is the layout on one line, **`Layout.indented`** the one with a line for
  every item. -/

namespace Coursework

/-- How the parts of a value are set apart. -/
structure Layout where
  /-- What each level adds to the start of a line, if every item has its own line. -/
  indentation : Option Text := none
  /-- It is made of signs that may stand between values. -/
  separates : ∀ unit ∈ indentation, ∀ sign ∈ unit, Json.isSeparator sign = true := by simp

namespace Layout

/-- Everything on one line. -/
def compact : Layout := {}

/-- Every item on its own line, with so many spaces for each level. -/
def indented (width : Nat) : Layout where
  indentation := some (List.replicate width Sign.space)
  separates := by simp [Json.isSeparator]

/-- What stands before an item at a depth, the first one or a later one. -/
def lineStart (layout : Layout) (depth : Nat) : Text :=
  match layout.indentation with
  | none => []
  | some unit => Sign.newline :: (List.replicate depth unit).flatten

/-- What stands between two items at a depth. -/
def separator (layout : Layout) (depth : Nat) : Text :=
  match layout.indentation with
  | none => ", "
  | some _ => Sign.comma :: layout.lineStart depth

end Layout

namespace Json

/-- The escape of a UTF-16 unit. -/
def escapeUnit (unit : Nat) : Text := ("\\u" : Text) ++ Text.hexadecimal 4 unit

/-- The written form of a sign in a text. -/
def writeSign (sign : Nat) : Text :=
  if sign = Sign.doubleQuote || sign = Sign.backslash then [Sign.backslash, sign]
  else if Sign.space ≤ sign && sign ≤ Sign.tilde then [sign]
  else if sign = Sign.newline then "\\n"
  else if sign = Sign.carriageReturn then "\\r"
  else if sign = Sign.tab then "\\t"
  else if sign = Sign.formFeed then "\\f"
  else if sign = 8 then "\\b"
  else if sign < 0x10000 then escapeUnit sign
  else escapeUnit (0xD800 + (sign - 0x10000) / 0x400) ++
    escapeUnit (0xDC00 + (sign - 0x10000) % 0x400)

/-- A text in quotes. -/
def writeText (value : Text) : Text :=
  Sign.doubleQuote :: value.flatMap writeSign ++ [Sign.doubleQuote]

/-- The written form of a number of double precision. -/
def writeFloat : Binary64 → Text
  | .nan => "NaN"
  | .infinite false => "Infinity"
  | .infinite true => "-Infinity"
  | value => value.toText

mutual

/-- The written form of a value at a depth. -/
def writeAt (layout : Layout) (depth : Nat) : Json → Text
  | null => "null"
  | bool true => "true"
  | bool false => "false"
  | int value => Text.ofInt value
  | float value => writeFloat value
  | text value => writeText value
  | list [] => "[]"
  | list items =>
    Sign.leftBracket :: layout.lineStart (depth + 1) ++ writeItems layout (depth + 1) items ++
      layout.lineStart depth ++ [Sign.rightBracket]
  | object [] => "{}"
  | object fields =>
    Sign.leftBrace :: layout.lineStart (depth + 1) ++ writeFields layout (depth + 1) fields ++
      layout.lineStart depth ++ [Sign.rightBrace]

/-- The written forms of a list's items. -/
def writeItems (layout : Layout) (depth : Nat) : List Json → Text
  | [] => []
  | [item] => writeAt layout depth item
  | item :: next :: items =>
    writeAt layout depth item ++ layout.separator depth ++ writeItems layout depth (next :: items)

/-- The written forms of an object's fields. -/
def writeFields (layout : Layout) (depth : Nat) : List (Text × Json) → Text
  | [] => []
  | [(name, value)] => writeText name ++ (": " : Text) ++ writeAt layout depth value
  | (name, value) :: next :: fields =>
    writeText name ++ (": " : Text) ++ writeAt layout depth value ++ layout.separator depth ++
      writeFields layout depth (next :: fields)

end

/-- The written form of a value. -/
def write (layout : Layout) (value : Json) : Text := writeAt layout 0 value

end Json

end Coursework
