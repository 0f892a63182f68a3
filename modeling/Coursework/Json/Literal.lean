import Coursework.Json.Basic
import Coursework.Text.Printable

/-! # Values as literals

A value that is no text but is shown as one is written as a literal: `None`, `True`, numbers in
their shortest form, texts in quotes, lists in brackets and objects in braces. A text that is
shown on its own is not quoted.

* **`Text.quoted`** writes a text in quotes, **`Json.literal`** any value.
* **`Json.display`** is a value's own text.

Whole numbers of at most 4300 digits are meant, of which a value that is read has no others. What a
larger one is shown as is of no use. -/

namespace Coursework

/-! ## (1) Quoted texts -/

/-- The form of a sign between the given quotes: itself, or an escape where it is not printable,
is the quote or opens escapes. -/
def Sign.quotedWith (quote sign : Nat) : Text :=
  if sign = quote || sign = Sign.backslash then [Sign.backslash, sign]
  else if sign = Sign.tab then "\\t"
  else if sign = Sign.newline then "\\n"
  else if sign = Sign.carriageReturn then "\\r"
  else if Sign.isPrintable sign then [sign]
  else if sign < 0x100 then ("\\x" : Text) ++ Text.hexadecimal 2 sign
  else if sign < 0x10000 then ("\\u" : Text) ++ Text.hexadecimal 4 sign
  else ("\\U" : Text) ++ Text.hexadecimal 8 sign

/-- The quote around a text: double only if it holds single quotes and no double ones. -/
def Text.quoteFor (text : Text) : Nat :=
  if text.any (· == Sign.singleQuote) && !text.any (· == Sign.doubleQuote) then Sign.doubleQuote
  else Sign.singleQuote

/-- A text in quotes. -/
def Text.quoted (text : Text) : Text :=
  let quote := text.quoteFor
  quote :: text.flatMap (Sign.quotedWith quote) ++ [quote]

/-! ## (2) Values -/

namespace Json

mutual

/-- The literal of a value. -/
def literal : Json → Text
  | null => "None"
  | bool true => "True"
  | bool false => "False"
  | int value => Text.ofInt value
  | float value => value.toText
  | text value => value.quoted
  | list items => Sign.leftBracket :: literalItems items ++ [Sign.rightBracket]
  | object fields => Sign.leftBrace :: literalFields fields ++ [Sign.rightBrace]

/-- The literals of a list's items, with commas between them. -/
def literalItems : List Json → Text
  | [] => []
  | [item] => literal item
  | item :: next :: items => literal item ++ (", " : Text) ++ literalItems (next :: items)

/-- The literals of an object's fields, with commas between them. -/
def literalFields : List (Text × Json) → Text
  | [] => []
  | [(name, value)] => name.quoted ++ (": " : Text) ++ literal value
  | (name, value) :: next :: fields =>
    name.quoted ++ (": " : Text) ++ literal value ++ (", " : Text) ++
      literalFields (next :: fields)

end

/-- The text of a value: a text itself, any other value's literal. -/
def display : Json → Text
  | text value => value
  | value => literal value

end Json

end Coursework
