import Coursework.Text.Basic

/-! # Base 64

Three bytes become four signs of an alphabet of sixty-four; `=` fills up the last four.

* **`Base64.encode`** writes bytes with either alphabet, **`Base64.decode?`** reads them back.
* **`Base64.decodeLoosely?`** also reads forms that other signs interrupt. -/

namespace Coursework.Base64

/-- The two signs that an alphabet adds to letters and digits. -/
structure Alphabet where
  /-- The sign for 62. -/
  sixtyTwo : Nat
  /-- The sign for 63. -/
  sixtyThree : Nat

/-- The alphabet of messages. -/
def standard : Alphabet := ⟨Sign.plus, Sign.slash⟩

/-- The alphabet that is safe in addresses and file names. -/
def urlSafe : Alphabet := ⟨Sign.hyphen, Sign.underscore⟩

/-- The sign of a value below sixty-four. -/
def Alphabet.sign (alphabet : Alphabet) (value : Nat) : Nat :=
  if value < 26 then 65 + value
  else if value < 52 then 71 + value
  else if value < 62 then value - 4
  else if value = 62 then alphabet.sixtyTwo
  else alphabet.sixtyThree

/-- The value of a sign of the alphabet. -/
def Alphabet.value? (alphabet : Alphabet) (sign : Nat) : Option Nat :=
  if Sign.isUpper sign then some (sign - 65)
  else if Sign.isLower sign then some (sign - 71)
  else if Sign.isDigit sign then some (sign + 4)
  else if sign = alphabet.sixtyTwo then some 62
  else if sign = alphabet.sixtyThree then some 63
  else none

/-- The written form of bytes. -/
def encode (alphabet : Alphabet) : List Nat → Text
  | [] => []
  | [a] => [alphabet.sign (a / 4), alphabet.sign (a % 4 * 16), Sign.equals, Sign.equals]
  | [a, b] =>
    [alphabet.sign (a / 4), alphabet.sign (a % 4 * 16 + b / 16), alphabet.sign (b % 16 * 4),
      Sign.equals]
  | a :: b :: c :: bytes =>
    alphabet.sign (a / 4) :: alphabet.sign (a % 4 * 16 + b / 16) ::
      alphabet.sign (b % 16 * 4 + c / 64) :: alphabet.sign (c % 64) :: encode alphabet bytes

/-- The bytes of a written form whose length is a multiple of four. -/
def decode? (alphabet : Alphabet) : Text → Option (List Nat)
  | [] => some []
  | p :: q :: Sign.equals :: Sign.equals :: [] => do
    let a ← alphabet.value? p
    let b ← alphabet.value? q
    return [a * 4 + b / 16]
  | p :: q :: r :: Sign.equals :: [] => do
    let a ← alphabet.value? p
    let b ← alphabet.value? q
    let c ← alphabet.value? r
    return [a * 4 + b / 16, b % 16 * 16 + c / 4]
  | p :: q :: r :: s :: text => do
    let a ← alphabet.value? p
    let b ← alphabet.value? q
    let c ← alphabet.value? r
    let d ← alphabet.value? s
    let bytes ← decode? alphabet text
    return (a * 4 + b / 16) :: (b % 16 * 16 + c / 4) :: (c % 4 * 64 + d) :: bytes
  | _ => none

/-- The bytes of signs of an alphabet, from a number of bits that are left over and their value:
`=` ends them as soon as the last four signs are filled up, and other signs are passed over. -/
def decodeLooselyFrom (alphabet : Alphabet) : Nat → Nat → Nat → Text → Option (List Nat)
  | _, count, _, [] => if count = 0 then some [] else none
  | pads, count, left, sign :: text =>
    if sign = Sign.equals then
      if 2 ≤ count && 4 ≤ count + pads + 1 then some []
      else decodeLooselyFrom alphabet (if 2 ≤ count then pads + 1 else pads) count left text
    else
      match alphabet.value? sign with
      | none => decodeLooselyFrom alphabet pads count left text
      | some value =>
        match count with
        | 0 => decodeLooselyFrom alphabet 0 1 value text
        | 1 => (decodeLooselyFrom alphabet 0 2 (value % 16) text).map ((left * 4 + value / 16) :: ·)
        | 2 => (decodeLooselyFrom alphabet 0 3 (value % 4) text).map ((left * 16 + value / 4) :: ·)
        | _ => (decodeLooselyFrom alphabet 0 0 0 text).map ((left * 64 + value) :: ·)

/-- The bytes of a written form that other signs may interrupt. -/
def decodeLoosely? (alphabet : Alphabet) (text : Text) : Option (List Nat) :=
  decodeLooselyFrom alphabet 0 0 0 text

end Coursework.Base64
