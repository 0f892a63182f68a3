import Coursework.Json.Writer

/-! # Compact JSON

The body of an answer is written without spaces and with every sign as itself, so it has a form
in UTF-8 only if no text holds a surrogate. Numbers that are not finite cannot be written; where
that must not stop an answer, they are left out.

* **`Json.compact`** is the written form, **`Json.isFinite`** tells whether there is one.
* **`Json.finite`** has null in place of numbers that are not finite. -/

namespace Coursework.Json

/-- The written form of a sign in a text: only what JSON does not admit is an escape. -/
def plainSign (sign : Nat) : Text :=
  if Sign.space ≤ sign && sign != Sign.doubleQuote && sign != Sign.backslash then [sign]
  else writeSign sign

/-- A text in quotes. -/
def plainText (value : Text) : Text :=
  Sign.doubleQuote :: value.flatMap plainSign ++ [Sign.doubleQuote]

mutual

/-- The written form of a value. -/
def compact : Json → Text
  | null => "null"
  | bool true => "true"
  | bool false => "false"
  | int value => Text.ofInt value
  | float value => writeFloat value
  | text value => plainText value
  | list items => Sign.leftBracket :: compactItems items ++ [Sign.rightBracket]
  | object fields => Sign.leftBrace :: compactFields fields ++ [Sign.rightBrace]

/-- The written forms of a list's items. -/
def compactItems : List Json → Text
  | [] => []
  | [item] => compact item
  | item :: next :: items => compact item ++ Sign.comma :: compactItems (next :: items)

/-- The written forms of an object's fields. -/
def compactFields : List (Text × Json) → Text
  | [] => []
  | [(name, value)] => plainText name ++ Sign.colon :: compact value
  | (name, value) :: next :: fields =>
    plainText name ++ Sign.colon :: compact value ++ Sign.comma :: compactFields (next :: fields)

end

mutual

/-- Whether all numbers are finite. -/
def isFinite : Json → Bool
  | float value => value.isFinite
  | list items => areFinite items
  | object fields => haveFinite fields
  | null | bool _ | int _ | text _ => true

/-- Whether all numbers in a list's items are finite. -/
def areFinite : List Json → Bool
  | [] => true
  | item :: items => isFinite item && areFinite items

/-- Whether all numbers in an object's fields are finite. -/
def haveFinite : List (Text × Json) → Bool
  | [] => true
  | (_, value) :: fields => isFinite value && haveFinite fields

end

mutual

/-- The value with null in place of numbers that are not finite. -/
def finite : Json → Json
  | float value => if value.isFinite then float value else null
  | list items => list (finiteItems items)
  | object fields => object (finiteFields fields)
  | null => null
  | bool value => bool value
  | int value => int value
  | text value => text value

/-- The items of a list with null in place of numbers that are not finite. -/
def finiteItems : List Json → List Json
  | [] => []
  | item :: items => finite item :: finiteItems items

/-- The fields of an object with null in place of numbers that are not finite. -/
def finiteFields : List (Text × Json) → List (Text × Json)
  | [] => []
  | (name, value) :: fields => (name, finite value) :: finiteFields fields

end

end Coursework.Json
