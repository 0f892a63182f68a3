import Coursework.Mail.Piece
import Coursework.Text.Base64
import Coursework.Text.Encoding
import Coursework.Text.Blank

/-! # Encoded words

Header fields are ASCII. Any other text is carried by encoded words `=?charset?form?text?=`,
where the form is `q` (a byte is itself or `=XX`) or `b` (base 64).

* **`Mail.EncodedWord.write`** chooses the shorter form, with a preference for `q`.
* **`Mail.EncodedWord.read`** finds a word at the start of a text and decodes it. -/

namespace Coursework.Mail.EncodedWord

/-- The character sets that are written. -/
inductive Charset
  /-- UTF-8. -/
  | utf8
  /-- ASCII with stray bytes. -/
  | unknown
  deriving DecidableEq, Repr

/-- The name of a character set in an encoded word. -/
def Charset.name : Charset → Text
  | .utf8 => "utf-8"
  | .unknown => "unknown-8bit"

/-- The character set of a text: stray bytes have an unknown one. -/
def Charset.ofText (text : Text) : Charset := if text.hasSurrogate then .unknown else .utf8

/-- The bytes of a text in a character set. -/
def Charset.bytes : Charset → Text → Except Unencodable (List Nat)
  | .utf8, text => text.utf8
  | .unknown, text => text.asciiStray

/-! ## (1) Writing -/

/-- Whether a byte stands for itself in the form `q`. -/
def isPlain (byte : Nat) : Bool :=
  Sign.isAlphanumeric byte || (("-!*+/" : Text).contains [byte])

/-- A byte in the form `q`, where a space is `_`. -/
def writeByte (byte : Nat) : Text :=
  if byte = Sign.space then [Sign.underscore]
  else if isPlain byte then [byte]
  else [Sign.equals, Sign.capitalHexDigit (byte / 16), Sign.capitalHexDigit (byte % 16)]

/-- How many signs the form `q` may have more than the other before it is given up. -/
def preference : Nat := 5

/-- The number of signs of an encoded word besides its text and its character set. -/
def frameLength : Nat := 7

/-- Bytes in the form that is chosen for them, with the letter of the form. -/
def writeBytes (bytes : List Nat) : Text :=
  let plain := bytes.flatMap writeByte
  let packed := Base64.encode Base64.standard bytes
  if plain.length < packed.length + preference then ("q?" : Text) ++ plain
  else ("b?" : Text) ++ packed

/-- The encoded word of a text. -/
def write (charset : Charset) (text : Text) : Except Unencodable Text := do
  let bytes ← charset.bytes text
  return ("=?" : Text) ++ charset.name ++ "?" ++ writeBytes bytes ++ "?="

/-! ## (2) Reading -/

/-- The bytes of a text in the form `q`. -/
def readPlain : List Nat → List Nat
  | [] => []
  | Sign.equals :: high :: low :: bytes =>
    match Sign.hexValue? high, Sign.hexValue? low with
    | some first, some second => (first * 16 + second) :: readPlain bytes
    | _, _ => Sign.equals :: readPlain (high :: low :: bytes)
  | byte :: bytes => (if byte = Sign.underscore then Sign.space else byte) :: readPlain bytes

/-- The bytes of a text in the form `b`; what is no base 64 stands for itself. -/
def readPacked (bytes : List Nat) : List Nat :=
  (Base64.decodeLoosely? Base64.standard (bytes ++ [Sign.equals, Sign.equals])).getD bytes

/-- A name of a character set without differences of case and punctuation. -/
def foldName (name : Text) : Text :=
  Text.joinWith [Sign.underscore] (Text.words (name.map fun sign =>
    if Sign.isAlphanumeric sign || sign = Sign.fullStop then Sign.lower sign else Sign.space))

/-- The names of UTF-8. -/
def utf8Names : List Text :=
  List.map Text.ofString ["utf_8", "utf8", "u8", "utf", "utf8_ucs2", "utf8_ucs4", "cp65001"]

/-- The names of the character set whose code points are the first 256. -/
def latinNames : List Text :=
  List.map Text.ofString
    ["latin_1", "latin1", "latin", "l1", "iso_8859_1", "iso8859_1", "iso8859", "8859", "cp819",
      "csisolatin1", "ibm819", "iso_8859_1_1987", "iso_ir_100"]

/-- The text of bytes in a named character set; an unknown one is taken for ASCII with stray
bytes. -/
def decode (name : Text) (bytes : List Nat) : Text :=
  if utf8Names.any (· = foldName name) then Text.ofUtf8Stray bytes
  else if latinNames.any (· = foldName name) then bytes
  else Text.ofAsciiStray bytes

/-- What stands at the start of a text. -/
inductive Reading
  /-- An encoded word, decoded, and what follows it. -/
  | found (text rest : Text)
  /-- Something with the frame of an encoded word that is none. -/
  | malformed
  /-- No encoded word. -/
  | absent

/-- What precedes and what follows the first end of an encoded word. -/
def splitEnd? : Text → Option (Text × Text)
  | Sign.question :: Sign.equals :: text => some ([], text)
  | sign :: text => (splitEnd? text).map fun (before, rest) => (sign :: before, rest)
  | [] => none

/-- The decoded text between the frame of an encoded word: character set, form and text. -/
def decodeInner? (inner : Text) : Option Text :=
  match Text.splitAt Sign.question inner with
  | [charset, form, content] => do
    let bytes ← (Text.asciiStray content).toOption
    let name := charset.takeWhile (· != Sign.asterisk)
    if name.any (· == 0) then none
    else match form.map Sign.lower with
      | [113] => some (decode name (readPlain bytes))
      | [98] => some (decode name (readPacked bytes))
      | _ => none
  | _ => none

/-- Whether two hexadecimal digits stand at the start. -/
def beginsWithByte : Text → Bool
  | high :: low :: _ => (Sign.hexValue? high).isSome && (Sign.hexValue? low).isSome
  | _ => false

/-- Reads an encoded word. An end that directly follows the letter of the form and precedes two
hexadecimal digits is the start of the text `=XX`. -/
def read (text : Text) : Reading :=
  match (text.after? ("=?" : Text)).bind splitEnd? with
  | none => .absent
  | some (inner, rest) =>
    let (inner, rest) :=
      if beginsWithByte rest && inner.count Sign.question < 2 then
        match splitEnd? rest with
        | some (more, rest) => (inner ++ ("?=" : Text) ++ more, rest)
        | none => (inner ++ ("?=" : Text) ++ rest, [])
      else (inner, rest)
    match decodeInner? inner with
    | some decoded => .found decoded rest
    | none => .malformed

/-- Whether an encoded word stands at the start. -/
def beginsHere (text : Text) : Bool :=
  match text.after? ("=?" : Text) with
  | none => false
  | some rest =>
    match rest.dropWhile (· != Sign.question) with
    | _ :: form :: Sign.question :: content =>
      (("qQbB" : Text).contains [form]) &&
        Text.contains (content.takeWhile (· != Sign.newline)) ("?=" : Text)
    | _ => false

/-- Whether an encoded word stands somewhere in the text. -/
def occursIn : Text → Bool
  | [] => false
  | sign :: text => beginsHere (sign :: text) || occursIn text

end Coursework.Mail.EncodedWord
