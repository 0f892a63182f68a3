import Coursework.Text.Basic
import Coursework.Decimal.Binary64

/-! # The shortest decimal form of a number

A finite number is written with the fewest significant digits that read back as the same number,
and of those with the nearest. Decimal exponents from -4 to 15 are written positionally, with at
least one digit after the point; all others with an exponent of at least two digits.

* **`Binary64.shortestDigits`** finds the digits and the exponent of the first one.
* **`Binary64.toText`** writes the number. -/

namespace Coursework.Binary64

/-! ## (1) The digits -/

/-- `a / b ≤ c / d`, or `<` when the end is left out. -/
def fractionBelow (inclusive : Bool) (a b c d : Nat) : Bool :=
  if inclusive then a * d ≤ c * b else a * d < c * b

/-- The fraction `value * 2 ^ exponent`. -/
def binaryFraction (value : Nat) (exponent : Int) : Nat × Nat :=
  if 0 ≤ exponent then (value * Nat.pow 2 exponent.toNat, 1)
  else (value, Nat.pow 2 (-exponent).toNat)

/-- The fraction `value * 10 ^ exponent`. -/
def decimalFraction (value : Nat) (exponent : Int) : Nat × Nat :=
  if 0 ≤ exponent then (value * Nat.pow 10 exponent.toNat, 1)
  else (value, Nat.pow 10 (-exponent).toNat)

/-- Whether the decimal `digits * 10 ^ power` is rounded to `significand * 2 ^ exponent`: it lies
between the points half way to the two neighbours, which belong to an even significand. -/
def readsBack (significand : Nat) (exponent : Int) (digits : Nat) (power : Int) : Bool :=
  let (a, b) := decimalFraction digits power
  let (low, below) :=
    if significand = Nat.pow 2 52 && leastExponent < exponent then
      binaryFraction (4 * significand - 1) (exponent - 2)
    else binaryFraction (2 * significand - 1) (exponent - 1)
  let (high, above) := binaryFraction (2 * significand + 1) (exponent - 1)
  let even := significand % 2 == 0
  fractionBelow even low below a b && fractionBelow even a b high above

/-- The number of decimal digits of a natural number. -/
def digitCount (number : Nat) : Nat := (Nat.toDigits 10 number).length

/-- The exponent of the first digit of a positive fraction. -/
def decimalExponent (numerator denominator : Nat) : Int :=
  let guess : Int := (digitCount numerator : Int) - digitCount denominator
  let (a, b) := decimalFraction 1 guess
  if a * denominator ≤ numerator * b then guess else guess - 1

/-- The shortest digits that read back, tried on grids of `width`, `width + 1`, … digits. The
second component is the exponent of the last digit. -/
def shortestFrom (significand : Nat) (exponent : Int) : Nat → Nat → Nat × Int
  | 0, width =>
    let (a, b) := binaryFraction significand exponent
    let power := decimalExponent a b - (width - 1 : Nat)
    let (scale, unit) := decimalFraction 1 power
    (roundDiv (a * unit) (b * scale), power)
  | grids + 1, width =>
    let (a, b) := binaryFraction significand exponent
    let power := decimalExponent a b - (width - 1 : Nat)
    let (scale, unit) := decimalFraction 1 power
    let lower := a * unit / (b * scale)
    let nearest := roundDiv (a * unit) (b * scale)
    let other := if nearest = lower then lower + 1 else lower
    if readsBack significand exponent nearest power then (nearest, power)
    else if readsBack significand exponent other power then (other, power)
    else shortestFrom significand exponent grids (width + 1)

/-- A number without the zeros at its end, and the exponent of its last digit. -/
def withoutZeros : Nat → Nat → Int → Nat × Int
  | 0, digits, power => (digits, power)
  | steps + 1, digits, power =>
    if digits % 10 = 0 && digits != 0 then withoutZeros steps (digits / 10) (power + 1)
    else (digits, power)

/-- The shortest digits of a positive finite number and the exponent of the first of them. -/
def shortestDigits (significand : Nat) (exponent : Int) : Text × Int :=
  let (digits, power) := shortestFrom significand exponent 16 1
  let (digits, power) := withoutZeros 20 digits power
  let text := Text.ofNat digits
  (text, power + (text.length - 1 : Nat))

/-! ## (2) The notation -/

/-- The least decimal exponent that is written positionally. -/
def positionalFrom : Int := -4

/-- The least decimal exponent above those that are written positionally. -/
def positionalBelow : Int := 16

/-- The exponent of the scientific notation: a sign and at least two digits. -/
def exponentText (exponent : Int) : Text :=
  let digits := Text.ofNat exponent.natAbs
  (if exponent < 0 then Sign.hyphen else Sign.plus) ::
    (if digits.length < 2 then Sign.zero :: digits else digits)

/-- Digits whose first has the given exponent, positionally or with an exponent. -/
def decimalText (digits : Text) (exponent : Int) : Text :=
  if exponent < positionalFrom || positionalBelow ≤ exponent then
    match digits with
    | [] => []
    | [digit] => digit :: ("e" : Text) ++ exponentText exponent
    | digit :: others => digit :: Sign.fullStop :: others ++ ("e" : Text) ++ exponentText exponent
  else if exponent < 0 then
    ("0." : Text) ++ List.replicate (-exponent - 1).toNat Sign.zero ++ digits
  else
    let whole := exponent.toNat + 1
    let padded := digits ++ List.replicate (whole - digits.length) Sign.zero
    let fraction := padded.drop whole
    padded.take whole ++ Sign.fullStop :: (if fraction.isEmpty then [Sign.zero] else fraction)

/-- The shortest text that reads back as the number. -/
def toText : Binary64 → Text
  | finite negative significand exponent =>
    (if negative then [Sign.hyphen] else []) ++
      if significand = 0 then ("0.0" : Text)
      else
        let (digits, exponent) := shortestDigits significand exponent
        decimalText digits exponent
  | infinite false => "inf"
  | infinite true => "-inf"
  | nan => "nan"

end Coursework.Binary64
