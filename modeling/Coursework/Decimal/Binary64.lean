/-! # Binary numbers of double precision

A number of double precision is a significand below `2 ^ 53` times a power of two, an infinity
or no number at all. Numbers are kept exactly, so that reading and writing them are functions on
natural numbers.

* **`Binary64`** is the type, **`Binary64.ofDecimal`** the nearest number to a decimal one.
* **`Binary64.toInt?`** is the value of a number without fraction. -/

namespace Coursework

/-- A number of double precision. -/
inductive Binary64
  /-- `significand * 2 ^ exponent`, or its negative. -/
  | finite (negative : Bool) (significand : Nat) (exponent : Int)
  /-- Beyond every finite number. -/
  | infinite (negative : Bool)
  /-- Not a number. -/
  | nan
  deriving DecidableEq, Repr

namespace Binary64

/-- The exponent of the least positive numbers. -/
def leastExponent : Int := -1074

/-- The exponent of the greatest finite numbers. -/
def greatestExponent : Int := 971

/-! ## (1) Rounding to the nearest number -/

/-- The quotient rounded to the nearest natural number, a half going to the even neighbour. -/
def roundDiv (numerator denominator : Nat) : Nat :=
  let quotient := numerator / denominator
  let twice := 2 * (numerator % denominator)
  if twice < denominator then quotient
  else if denominator < twice then quotient + 1
  else if quotient % 2 = 0 then quotient
  else quotient + 1

/-- `numerator / 2 ^ exponent / denominator` as a fraction of natural numbers. -/
def scaled (numerator denominator : Nat) (exponent : Int) : Nat × Nat :=
  if 0 ≤ exponent then (numerator, denominator * Nat.pow 2 exponent.toNat)
  else (numerator * Nat.pow 2 (-exponent).toNat, denominator)

/-- The exponent at which a positive fraction has a significand of 53 bits, or the least one. -/
def exponentFor (numerator denominator : Nat) : Int :=
  let guess : Int := (Nat.log2 numerator : Int) - Nat.log2 denominator - 52
  let (above, below) := scaled numerator denominator guess
  max leastExponent (if above < below * Nat.pow 2 52 then guess - 1 else guess)

/-- The number nearest to a fraction, a tie going to the even significand. -/
def ofFraction (negative : Bool) (numerator denominator : Nat) : Binary64 :=
  if numerator = 0 then .finite negative 0 leastExponent
  else
    let exponent := exponentFor numerator denominator
    let (above, below) := scaled numerator denominator exponent
    let significand := roundDiv above below
    let (significand, exponent) :=
      if significand = Nat.pow 2 53 then (Nat.pow 2 52, exponent + 1) else (significand, exponent)
    if greatestExponent < exponent then .infinite negative
    else .finite negative significand exponent

/-- The number nearest to `digits * 10 ^ exponent`, where `width` bounds the digits in number.
Magnitudes far outside the range are settled without forming the power. -/
def ofDecimal (negative : Bool) (digits width : Nat) (exponent : Int) : Binary64 :=
  if digits = 0 then .finite negative 0 leastExponent
  else if exponent + width < -400 then .finite negative 0 leastExponent
  else if 400 < exponent then .infinite negative
  else if 0 ≤ exponent then ofFraction negative (digits * Nat.pow 10 exponent.toNat) 1
  else ofFraction negative digits (Nat.pow 10 (-exponent).toNat)

/-! ## (2) Questions about a number -/

/-- Whether the number is zero, of either sign. -/
def isZero : Binary64 → Bool
  | finite _ significand _ => significand == 0
  | infinite _ => false
  | nan => false

/-- Whether the number is finite. -/
def isFinite : Binary64 → Bool
  | finite _ _ _ => true
  | infinite _ => false
  | nan => false

/-- The value of a finite number without fraction. -/
def toInt? : Binary64 → Option Int
  | finite negative significand exponent =>
    let magnitude : Option Nat :=
      if 0 ≤ exponent then some (significand * Nat.pow 2 exponent.toNat)
      else
        let unit := Nat.pow 2 (-exponent).toNat
        if significand % unit = 0 then some (significand / unit) else none
    magnitude.map fun magnitude => if negative then -(magnitude : Int) else magnitude
  | infinite _ => none
  | nan => none

end Binary64

end Coursework
