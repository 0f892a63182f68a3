import Coursework.Text.Encoding

/-! # Percent encoding

A part of an address holds letters, digits and `-._~` as they are; any other sign is written as
the bytes of its UTF-8 form, each as `%XX`.

* **`Text.percentEncoded`** writes such a part, **`Text.percentDecoded`** reads one.
* **`Text.percentNormal`** writes a whole address. -/

namespace Coursework

/-- The signs that stand for themselves in a part of an address. -/
def Sign.isUnreserved (sign : Nat) : Bool :=
  Sign.isAlphanumeric sign || sign == Sign.hyphen || sign == Sign.fullStop ||
    sign == Sign.underscore || sign == Sign.tilde

namespace Text

/-- A byte of an address. -/
def percentByte (byte : Nat) : Text :=
  if Sign.isUnreserved byte then [byte]
  else [Sign.percent, Sign.capitalHexDigit (byte / 16), Sign.capitalHexDigit (byte % 16)]

/-- A text as a part of an address. -/
def percentEncoded (text : Text) : Except Unencodable Text :=
  return (← text.utf8).flatMap percentByte

/-- The bytes of a part of an address; a percent sign without two hexadecimal digits stands for
itself. -/
def percentBytes : Text → List Nat
  | [] => []
  | [sign] => utf8Bytes sign
  | [sign, next] => utf8Bytes sign ++ utf8Bytes next
  | sign :: high :: low :: text =>
    match sign == Sign.percent, Sign.hexValue? high, Sign.hexValue? low with
    | true, some a, some b => (a * 16 + b) :: percentBytes text
    | _, _, _ => utf8Bytes sign ++ percentBytes (high :: low :: text)

/-- The text of bytes in UTF-8, with the replacement character where they are none. -/
def ofUtf8Replacing : List Nat → Text
  | [] => []
  | byte :: bytes =>
    match utf8Width? (byte :: bytes) with
    | some width =>
      ((ofUtf8 ((byte :: bytes).take width)).toOption.getD []) ++
        ofUtf8Replacing (bytes.drop (width - 1))
    | none => 0xFFFD :: ofUtf8Replacing bytes
  termination_by bytes => bytes.length
  decreasing_by all_goals (simp only [List.length_drop, List.length_cons]; omega)

/-- The text that a part of an address stands for. -/
def percentDecoded (text : Text) : Text := ofUtf8Replacing (percentBytes text)

/-- An address in which only the signs are percent encoded that have no place in one. -/
def percentNormal (text : Text) : Text :=
  text.flatMap fun sign =>
    if sign = Sign.percent || (Text.ofString ":/#?=@[]!$&'()*+,;").any (· == sign) then [sign]
    else (utf8Bytes sign).flatMap percentByte

end Text

end Coursework
