import Coursework.Text.Basic

/-! # Punycode

A label of any signs is written in ASCII: the ASCII signs it has, a hyphen, and a row of numbers
that tell which other signs stand where. The numbers have digits of changing weight, 36 values a
digit, and the weights adapt to the size of the numbers before.

* **`Punycode.encode`** writes a label, **`Punycode.decode?`** reads one. -/

namespace Coursework.Punycode

/-! ## (1) Digits and weights -/

/-- The digit of a value below 36: a letter, then a decimal digit. -/
def digit (value : Nat) : Nat := if value < 26 then 97 + value else 22 + value

/-- The value of a digit, of either case. -/
def value? (sign : Nat) : Option Nat :=
  if Sign.isLower sign then some (sign - 97)
  else if Sign.isUpper sign then some (sign - 65)
  else if Sign.isDigit sign then some (sign - 22)
  else none

/-- From which value on the digit at a place, the first being 36, is not the last of a number. -/
def threshold (place bias : Nat) : Nat := max 1 (min 26 (place - bias))

/-- The bias from a size that was damped. -/
def biasOf : Nat → Nat → Nat → Nat
  | 0, steps, size => steps * 36 + 36 * size / (size + 38)
  | fuel + 1, steps, size =>
    if 455 < size then biasOf fuel (steps + 1) (size / 35)
    else steps * 36 + 36 * size / (size + 38)

/-- The bias after a number, with the count of signs placed up to it and whether it is the
first. -/
def adapt (number count : Nat) (first : Bool) : Nat :=
  let size := if first then number / 700 else number / 2
  let size := size + size / count
  biasOf size 0 size

/-- The digits of a number from a place on. -/
def digits (bias : Nat) : Nat → Nat → Nat → Text
  | 0, _, _ => []
  | fuel + 1, place, number =>
    let least := threshold place bias
    if number < least then [digit number]
    else digit (least + (number - least) % (36 - least)) ::
      digits bias fuel (place + 36) ((number - least) / (36 - least))

/-! ## (2) Writing -/

/-- What is known while a label is written. -/
structure Writer where
  /-- The steps passed since the last number. -/
  delta : Nat := 0
  /-- The bias. -/
  bias : Nat := 72
  /-- How many signs are placed. -/
  placed : Nat
  /-- Whether no number is written yet. -/
  first : Bool := true
  /-- What is written. -/
  written : Text

/-- Passes a sign of the label while the sign `current` is placed. -/
def Writer.pass (current : Nat) (writer : Writer) (sign : Nat) : Writer :=
  if sign < current then { writer with delta := writer.delta + 1 }
  else if sign = current then
    { delta := 0
      bias := adapt writer.delta (writer.placed + 1) writer.first
      placed := writer.placed + 1
      first := false
      written := writer.written ++ digits writer.bias (writer.delta + 1) 36 writer.delta }
  else writer

/-- Places all occurrences of each of the signs, which are in order; `next` is the least sign that
is still to be considered. -/
def Writer.place (label : Text) : Nat → Text → Writer → Writer
  | _, [], writer => writer
  | next, sign :: signs, writer =>
    let start := { writer with delta := writer.delta + (sign - next) * (writer.placed + 1) }
    let passed := label.foldl (Writer.pass sign) start
    Writer.place label (sign + 1) signs { passed with delta := passed.delta + 1 }

/-- The written form of a label. -/
def encode (label : Text) : Text :=
  let basic := label.filter (· < 0x80)
  let others := (label.filter (0x80 ≤ ·)).eraseDups.mergeSort fun a b => decide (a ≤ b)
  let written := if basic.isEmpty then [] else basic ++ [Sign.hyphen]
  (Writer.place label 0x80 others { placed := basic.length, written }).written

/-! ## (3) Reading -/

/-- What is known while a label is read: the number in progress with its next place and weight,
and what the finished numbers have placed. -/
structure Reader where
  /-- The number in progress. -/
  number : Nat := 0
  /-- The place of its next digit. -/
  place : Nat := 36
  /-- The weight of its next digit. -/
  weight : Nat := 1
  /-- The bias. -/
  bias : Nat := 72
  /-- The sign that was placed last, or the first that can be. -/
  sign : Nat := 0x80
  /-- The position after the last sign placed. -/
  position : Nat := 0
  /-- Whether no number is read yet. -/
  first : Bool := true
  /-- The label so far. -/
  label : Text

/-- Places a sign after the last digit of a number. -/
def Reader.finish (reader : Reader) (number : Nat) : Option Reader :=
  let count := reader.label.length + 1
  let reached := reader.position + number
  let sign := reader.sign + reached / count
  let position := reached % count
  if 0x10FFFF < sign then none
  else some {
    bias := adapt number count reader.first
    sign
    position := position + 1
    first := false
    label := reader.label.take position ++ sign :: reader.label.drop position }

/-- Reads the rest of a label. -/
def Reader.read : Reader → Text → Option Text
  | reader, [] => if reader.place = 36 then some reader.label else none
  | reader, sign :: rest =>
    match value? sign with
    | none => none
    | some value =>
      let number := reader.number + value * reader.weight
      let least := threshold reader.place reader.bias
      if value < least then
        match reader.finish number with
        | some reader => reader.read rest
        | none => none
      else Reader.read { reader with
        number, place := reader.place + 36, weight := reader.weight * (36 - least) } rest

/-- The label of a written form. -/
def decode? (written : Text) : Option Text :=
  let numbers := (written.reverse.takeWhile (· != Sign.hyphen)).reverse
  let basic := (written.take (written.length - numbers.length)).dropLast
  Reader.read { label := basic } numbers

end Coursework.Punycode
