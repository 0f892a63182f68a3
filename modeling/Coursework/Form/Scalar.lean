import Coursework.Form.Issue
import Coursework.Json.Reader

/-! # Checks of single values

Texts are taken as they are. A whole number may also be given as a truth value, as a number
without fraction or as a text that spells it; a truth value as a text or number that stands for
it. Of the readings of a value with several, the one that takes it as it is comes first.

* **`Form.text`**, **`Form.integer`**, **`Form.boolean`** and **`Form.list`** check one value.
* **`Form.readInteger`** is the whole number that a text spells.
* **`Form.atLeast`** and **`Form.atMost`** bound a number. -/

namespace Coursework.Form

open Checked

/-! ## (1) Texts -/

/-- A text. -/
def text : Json → Checked Text
  | .text value => .ok value
  | _ => fail .notText

/-- A text whose number of code points lies within bounds. -/
def textOfLength (least greatest : Nat) (value : Json) : Checked Text := do
  let value ← text value
  if value.hasSurrogate then fail .notEncodable
  else if value.length < least then fail (.shorterThan least)
  else if greatest < value.length then fail (.longerThan greatest)
  else .ok value

/-- A value that may be absent: null is none. -/
def optional {α : Type} (check : Json → Checked α) : Json → Checked (Option α)
  | .null => .ok none
  | value => (check value).map some

/-- A list of checked items. -/
def list {α : Type} (check : Json → Checked α) : Json → Checked (List α)
  | .list items => each check items
  | _ => fail .notList

/-! ## (2) Whole numbers -/

/-- The numbers that fit into 64 bits with a sign. -/
def fitsWord (value : Int) : Bool := -0x8000000000000000 ≤ value && value < 0x8000000000000000

/-- What is left of digits without zeros before the number. An underscore may stand among them,
and a zero before a point or at the end is kept. -/
def dropZeros : Nat → Text → Option Text
  | last, [] => some [last]
  | last, sign :: rest =>
    if sign = Sign.zero || sign = Sign.underscore then dropZeros sign rest
    else if Sign.isDigit sign then some (sign :: rest)
    else if sign = Sign.fullStop then some (last :: sign :: rest)
    else none

/-- A numeral without zeros before the number; nothing if it starts with neither digit nor
minus. -/
def withoutLeadingZeros (numeral : Text) : Option Text :=
  match numeral with
  | [] => none
  | sign :: rest =>
    if sign = Sign.zero then dropZeros sign rest
    else if Sign.isDigit sign || sign = Sign.hyphen then some numeral
    else none

/-- A numeral without a fraction of zeros. -/
def withoutFraction (numeral : Text) : Text :=
  let (whole, rest) := numeral.span (· != Sign.fullStop)
  match rest with
  | _ :: fraction => if fraction.all (· == Sign.zero) then whole else numeral
  | [] => numeral

/-- A numeral without underscores, if each stands alone between two signs. -/
def withoutUnderscores (numeral : Text) : Text :=
  let pieces := numeral.splitAt Sign.underscore
  if pieces.any List.isEmpty then numeral else pieces.flatten

/-- The digits of a numeral in its plain form: no zero before another digit. -/
def plainDigits? (digits : Text) : Option Nat :=
  match digits with
  | [] => none
  | [digit] => if Sign.isDigit digit then some (digit - Sign.zero) else none
  | digit :: _ =>
    if digit != Sign.zero && digits.all Sign.isDigit then some (Text.natOfDigits digits) else none

/-- The number of a numeral in its plain form. -/
def plainInteger? : Text → Option Int
  | Sign.hyphen :: digits => (plainDigits? digits).map fun value => -(value : Int)
  | digits => (plainDigits? digits).map Int.ofNat

/-- The whole number that a text spells: white space around it, a plus before it, zeros before
it, a fraction of zeros and single underscores between digits are allowed. -/
def readInteger (spelled : Text) : Checked Int :=
  if spelled.hasSurrogate then fail .notEncodable
  else
    let trimmed := spelled.trim Sign.isWhiteSpace
    let unsigned := match trimmed with
      | Sign.plus :: Sign.hyphen :: _ => none
      | Sign.plus :: rest => some rest
      | _ => some trimmed
    match (unsigned.bind withoutLeadingZeros).map (withoutUnderscores ∘ withoutFraction) with
    | none => fail .integerUnreadable
    | some numeral =>
      if Json.numeralLimit < numeral.length && numeral.all Sign.isDigit then fail .integerTooLarge
      else match plainInteger? numeral with
        | some value => .ok value
        | none => fail .integerUnreadable

/-- The whole number that a number of double precision is, if it fits into 64 bits. -/
def integerOfFloat (value : Binary64) : Checked Int :=
  if !value.isFinite then fail .notFinite
  else match value.toInt? with
    | none => fail .fractional
    | some whole => if fitsWord whole then .ok whole else fail .integerTooLarge

/-- A whole number. -/
def integer : Json → Checked Int
  | .bool value => .ok (if value then 1 else 0)
  | .int value => .ok value
  | .float value => integerOfFloat value
  | .text spelled => readInteger spelled
  | _ => fail .notInteger

/-- A whole number from a bound on. -/
def atLeast (least value : Int) : Checked Int :=
  if value < least then fail (.below least) else .ok value

/-- A whole number up to a bound. -/
def atMost (greatest value : Int) : Checked Int :=
  if greatest < value then fail (.above greatest) else .ok value

/-! ## (3) Truth values -/

/-- The texts that stand for false. -/
def falseWords : List Text := ["0", "off", "f", "false", "n", "no"]

/-- The texts that stand for true. -/
def trueWords : List Text := ["1", "on", "t", "true", "y", "yes"]

/-- The truth value that a whole number stands for. -/
def booleanOfInteger (value : Int) : Checked Bool :=
  if value = 0 then .ok false
  else if value = 1 then .ok true
  else if fitsWord value then fail .booleanUnreadable
  else fail .notBoolean

/-- A truth value. -/
def boolean : Json → Checked Bool
  | .bool value => .ok value
  | .int value => booleanOfInteger value
  | .float value =>
    match value.toInt? with
    | some whole => if fitsWord whole then booleanOfInteger whole else fail .notBoolean
    | none => fail .notBoolean
  | .text spelled =>
    if spelled.hasSurrogate then fail .notEncodable
    else
      let word := spelled.map Sign.lower
      if falseWords.contains word then .ok false
      else if trueWords.contains word then .ok true
      else fail .booleanUnreadable
  | _ => fail .notBoolean

end Coursework.Form
