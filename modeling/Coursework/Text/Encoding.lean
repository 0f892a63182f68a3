import Coursework.Text.Basic

/-! # Encoded forms of a text

A text without surrogates has a form in UTF-8 and one in UTF-16. Positions in a document count
the units of UTF-16; files and messages hold the bytes of UTF-8.

* **`Text.units`** counts UTF-16 units, **`Text.utf16Length`** refuses surrogates.
* **`Text.utf8`** and **`Text.ofUtf8`** write and read bytes.
* **`Unencodable`** and **`Undecodable`** say what stood in the way, with their messages. -/

namespace Coursework

/-! ## (1) Surrogates -/

namespace Sign

/-- The code points U+D800 to U+DFFF, which no encoded form admits. -/
def isSurrogate (sign : Nat) : Bool := 0xD800 ≤ sign && sign ≤ 0xDFFF

/-- The surrogates that open a pair. -/
def isHighSurrogate (sign : Nat) : Bool := 0xD800 ≤ sign && sign ≤ 0xDBFF

/-- The surrogates that close a pair. -/
def isLowSurrogate (sign : Nat) : Bool := 0xDC00 ≤ sign && sign ≤ 0xDFFF

/-- The code point that a pair of surrogates stands for. -/
def ofSurrogates (high low : Nat) : Nat := 0x10000 + (high - 0xD800) * 0x400 + (low - 0xDC00)

/-- The number of UTF-16 units of a code point. -/
def units (sign : Nat) : Nat := if sign < 0x10000 then 1 else 2

end Sign

/-- The encoded forms. -/
inductive Encoding
  /-- Bytes, one a code point, for ASCII alone. -/
  | ascii
  /-- Bytes, one to four a code point. -/
  | utf8
  /-- Sixteen-bit units, one or two a code point. -/
  | utf16
  deriving DecidableEq, Repr

/-- The name of an encoded form in messages. -/
def Encoding.name : Encoding → Text
  | .ascii => "ascii"
  | .utf8 => "utf-8"
  | .utf16 => "utf-16-le"

/-- Which code points an encoded form does not admit. -/
def Encoding.restriction : Encoding → Text
  | .ascii => "ordinal not in range(128)"
  | .utf8 => "surrogates not allowed"
  | .utf16 => "surrogates not allowed"

/-- A text has no encoded form: where the first sign without one stands, and the last of the run
that the message speaks of. -/
structure Unencodable where
  /-- The form that was asked for. -/
  encoding : Encoding
  /-- The first sign without encoded form. -/
  sign : Nat
  /-- Its position. -/
  first : Nat
  /-- The position of the last sign that is reported with it. -/
  last : Nat
  deriving DecidableEq, Repr

/-- The escape of a code point in messages: as few of two, four and eight digits as it needs. -/
def Sign.escape (sign : Nat) : Text :=
  if sign < 0x100 then ("\\x" : Text) ++ Text.hexadecimal 2 sign
  else if sign < 0x10000 then ("\\u" : Text) ++ Text.hexadecimal 4 sign
  else ("\\U" : Text) ++ Text.hexadecimal 8 sign

/-- The message of a text without encoded form. -/
def Unencodable.message (fault : Unencodable) : Text :=
  "'" ++ fault.encoding.name ++ "' codec can't encode character" ++
    (if fault.first = fault.last then
      (" '" : Text) ++ Sign.escape fault.sign ++ "' in position " ++ Text.ofNat fault.first
    else
      ("s in position " : Text) ++ Text.ofNat fault.first ++ "-" ++ Text.ofNat fault.last) ++
    ": " ++ fault.encoding.restriction

namespace Text

/-- Whether some code point is a surrogate. -/
def hasSurrogate (text : Text) : Bool := text.any Sign.isSurrogate

/-- The number of UTF-16 units, a surrogate counting as one. -/
def units (text : Text) : Nat := text.foldr (fun sign count => Sign.units sign + count) 0

/-- The length of the UTF-16 form. -/
def utf16Length (text : Text) : Except Unencodable Nat :=
  match text.dropWhile (! Sign.isSurrogate ·) with
  | [] => .ok text.units
  | sign :: rest =>
    let first := text.length - (rest.length + 1)
    .error ⟨.utf16, sign, first, first⟩

/-! ## (2) UTF-8 -/

/-- The bytes of a code point. -/
def utf8Bytes (sign : Nat) : List Nat :=
  if sign < 0x80 then [sign]
  else if sign < 0x800 then [0xC0 + sign / 0x40, 0x80 + sign % 0x40]
  else if sign < 0x10000 then
    [0xE0 + sign / 0x1000, 0x80 + sign / 0x40 % 0x40, 0x80 + sign % 0x40]
  else
    [0xF0 + sign / 0x40000, 0x80 + sign / 0x1000 % 0x40, 0x80 + sign / 0x40 % 0x40,
      0x80 + sign % 0x40]

/-- The number of bytes. -/
def byteCount (text : Text) : Nat := (text.flatMap utf8Bytes).length

/-- The UTF-8 form of a text without surrogates. -/
def utf8 (text : Text) : Except Unencodable (List Nat) :=
  match text.dropWhile (! Sign.isSurrogate ·) with
  | [] => .ok (text.flatMap utf8Bytes)
  | sign :: rest =>
    let first := text.length - (rest.length + 1)
    .error ⟨.utf8, sign, first, first + (rest.takeWhile Sign.isSurrogate).length⟩

end Text

/-- Why bytes are no UTF-8. -/
inductive Undecodable.Cause
  /-- The byte cannot open a code point. -/
  | start
  /-- A byte that should continue the code point does not. -/
  | continuation
  /-- The bytes end within a code point. -/
  | cut
  deriving DecidableEq, Repr

/-- Bytes are no UTF-8: the first faulty sequence. -/
structure Undecodable where
  /-- The opening byte of the sequence. -/
  byte : Nat
  /-- Its position. -/
  first : Nat
  /-- The number of bytes that are reported. -/
  count : Nat
  /-- What is wrong with them. -/
  cause : Undecodable.Cause
  deriving DecidableEq, Repr

/-- The message of bytes that are no UTF-8. -/
def Undecodable.message (fault : Undecodable) : Text :=
  ("'utf-8' codec can't decode byte" : Text) ++
    (if fault.count = 1 then
      (" 0x" : Text) ++ Text.hexadecimal 2 fault.byte ++ " in position " ++ Text.ofNat fault.first
    else
      ("s in position " : Text) ++ Text.ofNat fault.first ++ "-" ++
        Text.ofNat (fault.first + fault.count - 1)) ++
    (": " : Text) ++
    match fault.cause with
    | .start => ("invalid start byte" : Text)
    | .continuation => "invalid continuation byte"
    | .cut => "unexpected end of data"

namespace Text

/-- The number of continuation bytes that an opening byte asks for, and the range of the first
of them, which excludes surrogates and longer forms than needed. -/
def utf8Opening? (byte : Nat) : Option (Nat × Nat × Nat) :=
  if byte < 0x80 then some (0, 0x80, 0xBF)
  else if 0xC2 ≤ byte && byte ≤ 0xDF then some (1, 0x80, 0xBF)
  else if byte = 0xE0 then some (2, 0xA0, 0xBF)
  else if byte = 0xED then some (2, 0x80, 0x9F)
  else if 0xE1 ≤ byte && byte ≤ 0xEF then some (2, 0x80, 0xBF)
  else if byte = 0xF0 then some (3, 0x90, 0xBF)
  else if 0xF1 ≤ byte && byte ≤ 0xF3 then some (3, 0x80, 0xBF)
  else if byte = 0xF4 then some (3, 0x80, 0x8F)
  else none

/-- The state of a reader of bytes: the next position, and for an unfinished code point its
opening byte, its value so far, the bytes read and still wanted, and the next one's range. -/
inductive Utf8State
  /-- Between two code points. -/
  | between
  /-- Within a code point. -/
  | within (opening value read wanted low high : Nat)

/-- The text of bytes in UTF-8, from a state at a position. -/
def ofUtf8From : Utf8State → Nat → List Nat → Except Undecodable Text
  | .between, _, [] => .ok []
  | .within opening _ read _ _ _, position, [] => .error ⟨opening, position - read, read, .cut⟩
  | .between, position, byte :: bytes =>
    match utf8Opening? byte with
    | none => .error ⟨byte, position, 1, .start⟩
    | some (0, _, _) => (ofUtf8From .between (position + 1) bytes).map (byte :: ·)
    | some (wanted, low, high) =>
      let value :=
        if wanted = 1 then byte - 0xC0 else if wanted = 2 then byte - 0xE0 else byte - 0xF0
      ofUtf8From (.within byte value 1 wanted low high) (position + 1) bytes
  | .within opening value read wanted low high, position, byte :: bytes =>
    if low ≤ byte && byte ≤ high then
      let value := value * 0x40 + (byte - 0x80)
      if wanted = 1 then (ofUtf8From .between (position + 1) bytes).map (value :: ·)
      else ofUtf8From (.within opening value (read + 1) (wanted - 1) 0x80 0xBF) (position + 1) bytes
    else .error ⟨opening, position - read, read, .continuation⟩

/-- The text of bytes in UTF-8. -/
def ofUtf8 (bytes : List Nat) : Except Undecodable Text := ofUtf8From .between 0 bytes

/-! ## (3) Stray bytes

A byte above 127 that belongs to no code point can be kept as the surrogate U+DC80 to U+DCFF
that stands for it. -/

/-- The surrogate that stands for a byte. -/
def strayByte (byte : Nat) : Nat := 0xDC00 + byte

/-- The byte that a surrogate stands for. -/
def strayByte? (sign : Nat) : Option Nat :=
  if 0xDC80 ≤ sign && sign ≤ 0xDCFF then some (sign - 0xDC00) else none

/-- The ASCII text of bytes, with stray bytes above 127. -/
def ofAsciiStray (bytes : List Nat) : Text :=
  bytes.map fun byte => if byte < 0x80 then byte else strayByte byte

/-- The number of bytes at the start that are one code point in UTF-8. -/
def utf8Width? (bytes : List Nat) : Option Nat :=
  (List.range' 1 4).find? fun width =>
    match ofUtf8 (bytes.take width) with
    | .ok [_] => width ≤ bytes.length
    | _ => false

/-- The text of bytes in UTF-8, with a stray byte wherever they are none. -/
def ofUtf8Stray : List Nat → Text
  | [] => []
  | byte :: bytes =>
    match utf8Width? (byte :: bytes) with
    | some width =>
      ((ofUtf8 ((byte :: bytes).take width)).toOption.getD []) ++
        ofUtf8Stray (bytes.drop (width - 1))
    | none => strayByte byte :: ofUtf8Stray bytes
  termination_by bytes => bytes.length
  decreasing_by all_goals (simp only [List.length_drop, List.length_cons]; omega)

/-- The bytes of a text that an encoded form admits but for stray bytes: `admitted` tells the
signs of the form and `bytes` writes one. -/
def encodeStray (encoding : Encoding) (admitted : Nat → Bool) (bytes : Nat → List Nat)
    (text : Text) : Except Unencodable (List Nat) :=
  match text.dropWhile fun sign => admitted sign || (strayByte? sign).isSome with
  | [] => .ok (text.flatMap fun sign =>
      match strayByte? sign with
      | some byte => [byte]
      | none => bytes sign)
  | sign :: rest =>
    let first := text.length - (rest.length + 1)
    .error ⟨encoding, sign, first, first + (rest.takeWhile (! admitted ·)).length⟩

/-- The bytes of an ASCII text with stray bytes. -/
def asciiStray (text : Text) : Except Unencodable (List Nat) :=
  encodeStray .ascii (· < 0x80) (fun sign => [sign]) text

/-- The UTF-8 form of a text with stray bytes. -/
def utf8Stray (text : Text) : Except Unencodable (List Nat) :=
  encodeStray .utf8 (! Sign.isSurrogate ·) utf8Bytes text

/-- Whether every sign is ASCII. -/
def isAscii (text : Text) : Bool := text.all (· < 0x80)

end Text

end Coursework
